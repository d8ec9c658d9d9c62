import SdlPhp.Proofs.Delivery.Markup
import SdlPhp.Proofs.Delivery.Running

/-!
# Tables without markup

A table can be shown at any width where no bracket and no backslash stands in its texts, as in the
table that sums a run up. Main statement: `Table.exists_lines`.
-/

namespace SdlPhp

open Attempt

namespace Markup

/-- The text can be shown in a column of any width, and in one without bounds. -/
def Shown.Fits (s : Shown) : Prop := ∀ width, ∃ ls, s.lines width = .ok ls

/-- A text in which nothing can be a tag is shown. -/
theorem exists_shown {text : String} (h : hasNoMarks text.toList = true) :
    ∃ s, shown text = .ok s ∧ s.Fits := by
  have nothing : Tame [] (parts []) := by
    rw [parts_nil]
    exact .done
  obtain ⟨st, tags, spans, hst⟩ := foldlM_step_of_tame (nothing.parts_append trivial h) {}
  rw [List.append_nil] at hst
  refine ⟨st.done, ?_, ((uses_empty "red".toList).of_eq tags spans).lines isColor_red⟩
  rw [shown, hst]
  rfl

end Markup

namespace Table

theorem exists_rowText {row : Markup.Shown × Markup.Shown} (hfirst : row.1.Fits)
    (hsecond : row.2.Fits) (width : Nat) : ∃ text, rowText width row = .ok text := by
  obtain ⟨first, hfirst⟩ := hfirst none
  obtain ⟨second, hsecond⟩ := hsecond (some width)
  rw [rowText, hfirst, hsecond]
  exact ⟨_, rfl⟩

/-- A table without markup can be shown. -/
theorem exists_lines {t : Table} (h : ∀ row ∈ t.rows,
    Markup.hasNoMarks row.1.toList = true ∧ Markup.hasNoMarks row.2.toList = true) :
    ∃ ls, t.lines = .ok ls := by
  obtain ⟨firsts, hfirsts, fitFirsts⟩ :=
    exists_mapM_ok fun row hrow => Markup.exists_shown (h row hrow).1
  obtain ⟨seconds, hseconds, fitSeconds⟩ :=
    exists_mapM_ok fun row hrow => Markup.exists_shown (h row hrow).2
  obtain ⟨rows, hrows, -⟩ : ∃ rows, (firsts.zip seconds).mapM (rowText (columnWidth seconds)) =
      .ok rows ∧ ∀ row ∈ rows, True := by
    refine exists_mapM_ok fun row hrow => ?_
    obtain ⟨hfirst, hsecond⟩ := List.of_mem_zip hrow
    obtain ⟨text, htext⟩ := exists_rowText (fitFirsts _ hfirst) (fitSeconds _ hsecond) _
    exact ⟨text, htext, trivial⟩
  rw [lines, hfirsts, hseconds]
  simp only [bind, Except.bind, hrows]
  exact ⟨_, rfl⟩

end Table

/-! ## The table of a run -/

theorem Markup.hasNoMarks_natText (n : Nat) :
    hasNoMarks (Number.natText n).toList = true := by
  rw [Number.natText, String.toList_ofList, hasNoMarks, List.all_eq_true]
  intro c hc
  have digit : c.isDigit = true := Nat.isDigit_of_mem_toDigits (by decide) (by decide) hc
  rw [Bool.and_eq_true, bne_iff_ne, bne_iff_ne]
  constructor <;> rintro rfl <;> exact absurd digit (by decide)

theorem Command.exists_sayMetadata (g : Generated) (p : Progress) :
    ∃ q, runFrom p (sayMetadata g) = (.ok (), q) := by
  obtain ⟨ls, hls⟩ := Table.exists_lines (t := ⟨"Generation Metadata",
    [("Property", "Value"), ("Language", Php.SourceFile.language),
      ("File Extension", Php.SourceFile.extension),
      ("Definition Count", Number.natText g.definitionCount),
      ("Warning Count", Number.natText g.warnings.length)]⟩) (by
    have plain := Markup.hasNoMarks_natText
    simp only [List.forall_mem_cons, plain, and_true]
    decide)
  rw [sayMetadata, sayTable, hls]
  exact ⟨_, rfl⟩

end SdlPhp
