import SdlPhp.Proofs.Text.Pieces
import SdlPhp.Text.Indent

/-!
# Lines moved in

Where one line of a text stands unindented, the text has no margin, and giving it another one moves
each of its lines in for itself (`lines_reindent`). Moving a line in twice moves it in behind both
prefixes (`shift_shift`), so that the prefixes of any number of levels add up.
-/

namespace SdlPhp.Text

variable {pre line cs : List Char} {ls : List (List Char)}

/-- The line behind a prefix, if it has a character that is no blank. Of all other lines those of
spaces and tabs alone lose them. -/
def shift (pre line : List Char) : List Char :=
  if isHollow line then [] else if allBlank line then line else pre ++ line

theorem isBlank_of_isIndentChar {c : Char} (h : isIndentChar c = true) : isBlank c = true := by
  simp only [isIndentChar, Bool.or_eq_true, beq_iff_eq] at h
  rcases h with rfl | rfl <;> decide

theorem allBlank_of_isHollow (h : isHollow line = true) : allBlank line = true := by
  unfold isHollow at h
  unfold allBlank
  rw [List.all_eq_true] at h ⊢
  intro c hc
  exact isBlank_of_isIndentChar (h c hc)

theorem isHollow_of_not_blank (h : allBlank line = false) : isHollow line = false := by
  by_contra hhollow
  rw [Bool.not_eq_false] at hhollow
  rw [allBlank_of_isHollow hhollow] at h
  cases h

theorem shift_of_not_blank (pre : List Char) (h : allBlank line = false) :
    shift pre line = pre ++ line := by
  simp [shift, h, isHollow_of_not_blank h]

@[simp]
theorem shift_nil (pre : List Char) : shift pre [] = [] := rfl

/-- A line with something in it keeps that behind a prefix. -/
theorem allBlank_append (h : allBlank line = false) : allBlank (pre ++ line) = false := by
  unfold allBlank at h ⊢
  rw [List.all_append, h, Bool.and_false]

theorem indentLine_blankHollow (pre line : List Char) :
    indentLine pre (blankHollow line) = shift pre line := by
  unfold blankHollow shift
  split
  · rfl
  · rfl

theorem shift_indentLine (pre inner line : List Char) :
    shift pre (indentLine inner line) = shift (pre ++ inner) line := by
  unfold indentLine
  by_cases h : allBlank line = true
  · rw [if_pos h]
    simp only [shift, h, if_true]
  · rw [Bool.not_eq_true] at h
    rw [h, if_neg Bool.false_ne_true, shift_of_not_blank _ (allBlank_append h),
      shift_of_not_blank _ h, List.append_assoc]

theorem shift_shift (pre inner line : List Char) :
    shift pre (shift inner line) = shift (pre ++ inner) line := by
  by_cases h : isHollow line = true
  · have hempty (pre : List Char) : shift pre line = [] := by
      unfold shift
      rw [if_pos h]
    rw [hempty, hempty, shift_nil]
  · have hshift : shift inner line = indentLine inner line := by
      unfold shift indentLine
      rw [if_neg h]
    rw [hshift, shift_indentLine]

/-! ## Texts without a margin -/

theorem commonPrefix_nil_right (as : List Char) : commonPrefix as [] = [] := by
  cases as <;> rfl

/-- A line that starts with neither a space nor a tab leaves no common start. -/
theorem commonLeading_of_mem (hmem : line ∈ ls) (h : leading line = []) :
    commonLeading ls = [] := by
  induction ls with
  | nil => cases hmem
  | cons l ls ih =>
    cases ls with
    | nil =>
      rw [List.mem_singleton] at hmem
      subst hmem
      exact h
    | cons m ls =>
      unfold commonLeading
      rcases List.mem_cons.1 hmem with rfl | hmem
      · rw [h]
        rfl
      · rw [ih hmem, commonPrefix_nil_right]

theorem dropMargin_nil (line : List Char) : dropMargin [] line = line := by
  simp [dropMargin]

/-- Where a line stands unindented, nothing is taken off any line but what it has of spaces and
tabs alone. -/
theorem dedentLines_of_mem (hmem : line ∈ ls) (hollow : isHollow line = false)
    (h : leading line = []) : dedentLines ls = ls.map blankHollow := by
  have hmargin : margin ls = [] := by
    have hkept : line ∈ ls.filter (!isHollow ·) := by
      rw [List.mem_filter]
      exact ⟨hmem, by rw [hollow]; rfl⟩
    exact commonLeading_of_mem hkept h
  have hkept : dropMargin [] = id := funext dropMargin_nil
  unfold dedentLines
  rw [hmargin, hkept, List.map_id]

/-! ## Lines of moved texts -/

theorem newline_not_mem_blankHollow (h : '\n' ∉ line) : '\n' ∉ blankHollow line := by
  unfold blankHollow
  split
  · exact List.not_mem_nil
  · exact h

theorem newline_not_mem_indentLine (hpre : '\n' ∉ pre) (h : '\n' ∉ line) :
    '\n' ∉ indentLine pre line := by
  unfold indentLine
  split
  · exact h
  · rw [List.mem_append, not_or]
    exact ⟨hpre, h⟩

/-- The lines of a text that is put together from changed lines of another one. -/
theorem lines_unlines_map {f : List Char → List Char} (h : ∀ l, '\n' ∉ l → '\n' ∉ f l)
    (cs : List Char) : lines (unlines ((lines cs).map f)) = (lines cs).map f := by
  apply lines_unlines
  · rw [ne_eq, List.map_eq_nil_iff]
    exact pieces_ne_nil '\n' cs
  · intro l hl
    obtain ⟨k, hk, rfl⟩ := List.mem_map.1 hl
    exact h k (sep_not_mem_of_mem_pieces hk)

theorem lines_indentChars (hpre : '\n' ∉ pre) (cs : List Char) :
    lines (indentChars pre cs) = (lines cs).map (indentLine pre) :=
  lines_unlines_map (fun _ h => newline_not_mem_indentLine hpre h) cs

/-- A text one line of which stands unindented is moved in line by line. -/
theorem lines_reindent (hpre : '\n' ∉ pre) (hmem : line ∈ lines cs) (hollow : isHollow line = false)
    (h : leading line = []) :
    lines (indentChars pre (dedentChars cs)) = (lines cs).map (shift pre) := by
  have hdedent : lines (dedentChars cs) = (lines cs).map blankHollow := by
    unfold dedentChars
    rw [dedentLines_of_mem hmem hollow h]
    exact lines_unlines_map (fun _ => newline_not_mem_blankHollow) cs
  rw [lines_indentChars hpre, hdedent, List.map_map]
  apply List.map_congr_left
  intro l _
  exact indentLine_blankHollow pre l

/-! ## Texts with an empty line between them -/

/-- Texts, given by their lines, with an empty line between any two of them. -/
def apart (texts : List (List (List Char))) : List (List Char) := [[]].intercalate texts

theorem apart_cons_cons (t u : List (List Char)) (ts : List (List (List Char))) :
    apart (t :: u :: ts) = t ++ [] :: apart (u :: ts) := by
  simp [apart, List.intercalate, List.intersperse]

theorem apart_singleton (t : List (List Char)) : apart [t] = t := by
  simp [apart, List.intercalate, List.intersperse]

theorem infix_apart {t : List (List Char)} {ts : List (List (List Char))} (h : t ∈ ts) :
    t <:+: apart ts := by
  induction ts with
  | nil => cases h
  | cons u ts ih =>
    cases ts with
    | nil =>
      rw [List.mem_singleton] at h
      subst h
      simp only [apart_singleton, List.infix_rfl]
    | cons v ts =>
      rw [apart_cons_cons]
      rcases List.mem_cons.1 h with rfl | h
      · exact ⟨[], [] :: apart (v :: ts), by rw [List.nil_append]⟩
      · exact (ih h).trans ⟨u ++ [[]], [], by simp⟩

/-- What stands before and behind one of the texts is the same for any text in its place. -/
theorem exists_apart_around (ts us : List (List (List Char))) :
    ∃ before after, ∀ t, apart (ts ++ t :: us) = before ++ t ++ after := by
  induction ts with
  | nil =>
    cases us with
    | nil => exact ⟨[], [], fun t => by simp [apart_singleton]⟩
    | cons u us => exact ⟨[], [] :: apart (u :: us), fun t => by simp [apart_cons_cons]⟩
  | cons s ts ih =>
    obtain ⟨before, after, h⟩ := ih
    refine ⟨s ++ [] :: before, after, ?_⟩
    intro t
    have hcons : apart (s :: (ts ++ t :: us)) = s ++ [] :: apart (ts ++ t :: us) := by
      cases ts <;> exact apart_cons_cons _ _ _
    rw [List.cons_append, hcons, h]
    simp

/-- Moving lines in keeps the empty lines between texts. -/
theorem map_shift_apart (pre : List Char) (ts : List (List (List Char))) :
    (apart ts).map (shift pre) = apart (ts.map (List.map (shift pre))) := by
  induction ts with
  | nil => rfl
  | cons t ts ih =>
    cases ts with
    | nil => rw [List.map_singleton, apart_singleton, apart_singleton]
    | cons u ts =>
      rw [apart_cons_cons, List.map_append, List.map_cons, ih, shift_nil]
      exact (apart_cons_cons _ _ _).symm

theorem lines_apart {texts : List String} (h : texts ≠ []) :
    lines ("\n\n".intercalate texts).toList = apart (texts.map fun s => lines s.toList) := by
  induction texts with
  | nil => exact absurd rfl h
  | cons s texts ih =>
    cases texts with
    | nil => rw [String.intercalate_singleton, List.map_singleton, apart_singleton]
    | cons u texts =>
      have hsep : "\n\n".toList = ['\n', '\n'] := by decide
      rw [String.intercalate_cons_cons, String.toList_append, String.toList_append, hsep,
        List.append_assoc, List.cons_append, List.singleton_append, lines, pieces_append,
        pieces_cons_sep, List.map_cons, List.map_cons, apart_cons_cons]
      exact congrArg (pieces '\n' s.toList ++ [] :: ·) (ih (List.cons_ne_nil u texts))

end SdlPhp.Text
