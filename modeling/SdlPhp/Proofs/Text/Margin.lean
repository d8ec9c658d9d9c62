import SdlPhp.Proofs.Text.Indent

/-!
# Margins

The margin of some lines is the longest run of spaces and tabs with which all of them start that are
not blank (`isMargin_margin`). Taking it off leaves lines without a margin, and moving those in by
any indent makes this indent their margin (`margin_map_indentLine`), so that taking the margin off
again undoes it (`dedentLines_map_indentLine`). Main statement: `reindent_absorbs`.
-/

namespace SdlPhp.Text

variable {pre line : List Char} {ls : List (List Char)}

/-! ## Common prefixes -/

theorem prefix_commonPrefix_iff {as bs : List Char} :
    pre <+: commonPrefix as bs ↔ pre <+: as ∧ pre <+: bs := by
  induction as generalizing pre bs with
  | nil =>
    rw [commonPrefix, List.prefix_nil]
    · exact (and_iff_left_of_imp fun hnil => hnil ▸ List.nil_prefix).symm
    · intro _ _ _ _ hnil
      cases hnil
  | cons a as ih =>
    cases bs with
    | nil =>
      rw [commonPrefix_nil_right, List.prefix_nil]
      exact (and_iff_right_of_imp fun hnil => hnil ▸ List.nil_prefix).symm
    | cons b bs =>
      cases pre with
      | nil => simp
      | cons c pre =>
        by_cases hab : a = b
        · subst hab
          simp only [commonPrefix, if_true, List.cons_prefix_cons, ih]
          exact and_and_left
        · rw [commonPrefix, if_neg hab, List.prefix_nil]
          refine iff_of_false (List.cons_ne_nil c pre) fun h => hab ?_
          exact (List.cons_prefix_cons.1 h.1).1.symm.trans (List.cons_prefix_cons.1 h.2).1

theorem prefix_commonLeading_iff (hne : ls ≠ []) :
    pre <+: commonLeading ls ↔ ∀ line ∈ ls, pre <+: leading line := by
  induction ls with
  | nil => exact absurd rfl hne
  | cons l ls ih =>
    cases ls with
    | nil => rw [commonLeading, List.forall_mem_singleton]
    | cons m ls =>
      rw [commonLeading, prefix_commonPrefix_iff, ih (List.cons_ne_nil m ls),
        List.forall_mem_cons (l := m :: ls)]

/-! ## Prefixes of spaces and tabs -/

/-- All characters are spaces and tabs. -/
def IsIndent (cs : List Char) : Prop := ∀ c ∈ cs, isIndentChar c = true

instance (cs : List Char) : Decidable (IsIndent cs) := List.decidableBAll _ cs

theorem IsIndent.newline_not_mem (h : IsIndent pre) : '\n' ∉ pre :=
  fun hmem => absurd (h _ hmem) (by decide)

theorem leading_prefix_self (line : List Char) : leading line <+: line := List.takeWhile_prefix _

theorem isIndent_leading (line : List Char) : IsIndent (leading line) :=
  fun _ hc => List.mem_takeWhile_imp hc

theorem leading_append (h : IsIndent pre) (line : List Char) :
    leading (pre ++ line) = pre ++ leading line := List.takeWhile_append_of_pos h

/-- A line starts with the same spaces and tabs as its leading run. -/
theorem prefix_leading_iff (h : IsIndent pre) : pre <+: leading line ↔ pre <+: line := by
  constructor
  · exact fun hpre => hpre.trans (leading_prefix_self line)
  · rintro ⟨rest, rfl⟩
    rw [leading_append h]
    exact List.prefix_append pre _

theorem isHollow_nil : isHollow [] = true := rfl

theorem isHollow_append (h : IsIndent pre) (line : List Char) :
    isHollow (pre ++ line) = isHollow line := by
  unfold isHollow
  rw [List.all_append, List.all_eq_true.2 h, Bool.true_and]

/-! ## The margin -/

/-- The text is the longest run of spaces and tabs with which all lines start that are not blank. -/
structure IsMargin (m : List Char) (ls : List (List Char)) : Prop where
  isIndent : IsIndent m
  isPrefix : ∀ line ∈ ls, allBlank line = false → m <+: line
  longest : ∀ pre, IsIndent pre → (∀ line ∈ ls, allBlank line = false → pre <+: line) → pre <+: m

/-- The lines that have a say in the margin. -/
def solid (ls : List (List Char)) : List (List Char) := ls.filter (!isHollow ·)

theorem mem_solid : line ∈ solid ls ↔ line ∈ ls ∧ isHollow line = false := by
  rw [solid, List.mem_filter, Bool.not_eq_true']

/-- Lines have the same say in the margin before and behind a change that keeps hollow lines hollow
and no other line. -/
theorem solid_map {f : List Char → List Char}
    (hf : ∀ line ∈ ls, isHollow (f line) = isHollow line) :
    solid (ls.map f) = (solid ls).map f := by
  rw [solid, List.filter_map, solid]
  refine congrArg _ (List.filter_congr fun line hline => ?_)
  rw [Function.comp_apply, hf line hline]

theorem margin_eq (ls : List (List Char)) : margin ls = commonLeading (solid ls) := rfl

theorem margin_of_solid (h : solid ls = []) : margin ls = [] := by
  rw [margin_eq, h, commonLeading]

theorem margin_prefix_leading (hline : line ∈ solid ls) : margin ls <+: leading line :=
  (prefix_commonLeading_iff (List.ne_nil_of_mem hline)).1 List.prefix_rfl line hline

theorem isIndent_margin (ls : List (List Char)) : IsIndent (margin ls) := by
  by_cases hnil : solid ls = []
  · rw [margin_of_solid hnil]
    exact List.forall_mem_nil _
  · obtain ⟨line, hline⟩ := List.exists_mem_of_ne_nil _ hnil
    exact fun c hc => isIndent_leading line c ((margin_prefix_leading hline).subset hc)

/-- A blank line has nothing but spaces and tabs. -/
def BlankHollow (ls : List (List Char)) : Prop :=
  ∀ line ∈ ls, allBlank line = true → isHollow line = true

instance (ls : List (List Char)) : Decidable (BlankHollow ls) := List.decidableBAll _ ls

theorem BlankHollow.allBlank_eq (h : BlankHollow ls) (hline : line ∈ ls) :
    allBlank line = isHollow line :=
  Bool.eq_iff_iff.2 ⟨h line hline, allBlank_of_isHollow⟩

theorem BlankHollow.mem_solid (h : BlankHollow ls) :
    line ∈ solid ls ↔ line ∈ ls ∧ allBlank line = false := by
  rw [Text.mem_solid]
  exact and_congr_right fun hline => by rw [h.allBlank_eq hline]

/-- Where there are lines that are not blank, the margin is their longest common start. -/
theorem isMargin_margin (h : BlankHollow ls) (hsome : ∃ line ∈ ls, allBlank line = false) :
    IsMargin (margin ls) ls where
  isIndent := isIndent_margin ls
  isPrefix line hline hblank :=
    (margin_prefix_leading (h.mem_solid.2 ⟨hline, hblank⟩)).trans (leading_prefix_self line)
  longest pre hpre hall := by
    obtain ⟨line, hline⟩ := hsome
    refine (prefix_commonLeading_iff (List.ne_nil_of_mem (h.mem_solid.2 hline))).2 ?_
    intro line hline
    obtain ⟨hmem, hblank⟩ := h.mem_solid.1 hline
    exact (prefix_leading_iff hpre).2 (hall line hmem hblank)

/-! ## Taking the margin off -/

/-- A line without its first characters, as many as are given; nothing is left of a hollow line. -/
def cutLine (n : Nat) (line : List Char) : List Char := if isHollow line then [] else line.drop n

theorem cutLine_of_isHollow (n : Nat) (h : isHollow line = true) : cutLine n line = [] := if_pos h

theorem cutLine_of_not (n : Nat) (h : isHollow line = false) : cutLine n line = line.drop n :=
  if_neg (by simp [h])

theorem margin_append_cutLine (hline : line ∈ solid ls) :
    margin ls ++ cutLine (margin ls).length line = line := by
  rw [cutLine_of_not _ (mem_solid.1 hline).2]
  exact List.prefix_iff_eq_append.1 ((margin_prefix_leading hline).trans (leading_prefix_self line))

theorem dedentLines_eq (ls : List (List Char)) :
    dedentLines ls = ls.map (cutLine (margin ls).length) := by
  rw [dedentLines, List.map_map]
  refine List.map_congr_left fun line hline => ?_
  rw [Function.comp_apply, blankHollow]
  cases hhollow : isHollow line with
  | true =>
    rw [if_pos rfl, cutLine_of_isHollow _ hhollow]
    simp [dropMargin]
  | false =>
    have hcut := margin_append_cutLine (mem_solid.2 ⟨hline, hhollow⟩)
    conv_lhs => rw [if_neg Bool.false_ne_true, ← hcut]
    exact dropMargin_append _ _

theorem isHollow_cutLine (hline : line ∈ ls) :
    isHollow (cutLine (margin ls).length line) = isHollow line := by
  cases hhollow : isHollow line with
  | true => rw [cutLine_of_isHollow _ hhollow, isHollow_nil]
  | false =>
    have hcut := margin_append_cutLine (mem_solid.2 ⟨hline, hhollow⟩)
    rw [← hhollow, ← isHollow_append (isIndent_margin ls), hcut]

theorem solid_dedentLines (ls : List (List Char)) :
    solid (dedentLines ls) = (solid ls).map (cutLine (margin ls).length) := by
  rw [dedentLines_eq]
  exact solid_map fun line hline => isHollow_cutLine hline

/-- Behind an indent, the common start of lines is the indent and what they shared before. -/
theorem commonLeading_map_append (h : IsIndent pre) (hne : ls ≠ []) :
    commonLeading (ls.map (pre ++ ·)) = pre ++ commonLeading ls := by
  induction ls with
  | nil => exact absurd rfl hne
  | cons l ls ih =>
    cases ls with
    | nil => exact leading_append h l
    | cons m ls =>
      have hrest := ih (List.cons_ne_nil m ls)
      rw [List.map_cons] at hrest
      rw [List.map_cons, List.map_cons, commonLeading, hrest, leading_append h,
        commonPrefix_append, commonLeading]

/-- No margin is left where it was taken off. -/
theorem margin_dedentLines (ls : List (List Char)) : margin (dedentLines ls) = [] := by
  by_cases hnil : solid ls = []
  · exact margin_of_solid (by rw [solid_dedentLines, hnil, List.map_nil])
  · -- behind the margin, what is left are the lines again, and so their common start is the margin
    have hback : ((solid ls).map (cutLine (margin ls).length)).map (margin ls ++ ·) = solid ls := by
      rw [List.map_map]
      exact (List.map_congr_left fun line hline => margin_append_cutLine hline).trans
        (List.map_id _)
    have hne : (solid ls).map (cutLine (margin ls).length) ≠ [] := by simpa using hnil
    have hsame : margin ls ++ margin (dedentLines ls) = margin ls := by
      rw [margin_eq (dedentLines ls), solid_dedentLines,
        ← commonLeading_map_append (isIndent_margin ls) hne, hback, ← margin_eq]
    exact List.append_right_eq_self.1 hsame

/-! ## Moving lines in again -/

theorem isHollow_indentLine (h : IsIndent pre) (line : List Char) :
    isHollow (indentLine pre line) = isHollow line := by
  rw [indentLine]
  split
  · rfl
  · exact isHollow_append h line

/-- All lines that have a say in the margin are moved in. -/
theorem solid_map_indentLine (h : IsIndent pre) (hblank : BlankHollow ls) :
    solid (ls.map (indentLine pre)) = (solid ls).map (pre ++ ·) := by
  rw [solid_map fun line _ => isHollow_indentLine h line]
  refine List.map_congr_left fun line hline => ?_
  rw [indentLine, (hblank.mem_solid.1 hline).2, if_neg Bool.false_ne_true]

/-- The margin of lines that had none is the indent behind which they were moved. -/
theorem margin_map_indentLine (h : IsIndent pre) (hblank : BlankHollow ls)
    (hmargin : margin ls = []) (hsome : solid ls ≠ []) :
    margin (ls.map (indentLine pre)) = pre := by
  rw [margin_eq, solid_map_indentLine h hblank, commonLeading_map_append h hsome, ← margin_eq,
    hmargin, List.append_nil]

/-- Lines without a margin come back from being moved in, if those that are blank are empty. -/
theorem dedentLines_map_indentLine (h : IsIndent pre) (hmargin : margin ls = [])
    (hempty : ∀ line ∈ ls, allBlank line = true → line = []) :
    dedentLines (ls.map (indentLine pre)) = ls := by
  have hblank : BlankHollow ls := fun line hline hall => by
    rw [hempty line hline hall, isHollow_nil]
  rw [dedentLines_eq, List.map_map]
  refine (List.map_congr_left fun line hline => ?_).trans (List.map_id ls)
  rw [Function.comp_apply, id_eq, indentLine]
  cases hall : allBlank line with
  | true =>
    rw [if_pos rfl, cutLine_of_isHollow _ (hblank line hline hall), hempty line hline hall]
  | false =>
    have hsolid := hblank.mem_solid.2 ⟨hline, hall⟩
    have hhollow : isHollow (pre ++ line) = false :=
      (isHollow_append h line).trans (mem_solid.1 hsolid).2
    rw [margin_map_indentLine h hblank hmargin (List.ne_nil_of_mem hsolid),
      if_neg Bool.false_ne_true, cutLine_of_not _ hhollow, List.drop_left]

/-! ## Texts -/

/-- The text with its margin taken off. -/
def dedented (text : String) : String := String.ofList (dedentChars text.toList)

theorem reindentBy_eq (pre text : String) : reindentBy pre text = indentBy pre (dedented text) := by
  rw [reindentBy, indentBy, dedented, String.toList_ofList]

theorem newline_not_mem_cutLine (n : Nat) (h : '\n' ∉ line) : '\n' ∉ cutLine n line := by
  rw [cutLine]
  split
  · exact List.not_mem_nil
  · exact fun hmem => h (List.mem_of_mem_drop hmem)

theorem lines_dedented (text : String) :
    lines (dedented text).toList = dedentLines (lines text.toList) := by
  rw [dedented, String.toList_ofList, dedentChars, dedentLines_eq]
  exact lines_unlines_map (fun _ => newline_not_mem_cutLine _) text.toList

theorem lines_reindentBy {i : String} (hi : IsIndent i.toList) (text : String) :
    lines (reindentBy i text).toList =
      (dedentLines (lines text.toList)).map (indentLine i.toList) := by
  rw [reindentBy_eq, indentBy, String.toList_ofList, lines_indentChars hi.newline_not_mem,
    lines_dedented]

theorem lines_injective : Function.Injective lines := fun cs ds h => by
  rw [← join_pieces '\n' cs, ← join_pieces '\n' ds]
  exact congrArg (join '\n') h

/-- Taking the margin off leaves no blank lines but empty ones. -/
theorem eq_nil_of_mem_dedentLines (hblank : BlankHollow ls) (hline : line ∈ dedentLines ls)
    (hall : allBlank line = true) : line = [] := by
  rw [dedentLines_eq] at hline
  obtain ⟨l, hl, rfl⟩ := List.mem_map.1 hline
  cases hhollow : isHollow l with
  | true => exact cutLine_of_isHollow _ hhollow
  | false =>
    -- behind a blank margin a blank rest would make for a blank line, which is hollow
    have hmargin := allBlank_of_isHollow (List.all_eq_true.2 (isIndent_margin ls))
    have hl' : allBlank l = true := by
      rw [← margin_append_cutLine (mem_solid.2 ⟨hl, hhollow⟩), allBlank, List.all_append]
      exact Bool.and_eq_true_iff.2 ⟨hmargin, hall⟩
    rw [hblank l hl hl'] at hhollow
    cases hhollow

theorem BlankHollow.dedentLines (h : BlankHollow ls) : BlankHollow (dedentLines ls) :=
  fun line hline hall => by
    rw [eq_nil_of_mem_dedentLines h hline hall, isHollow_nil]

/-- Of a text the blank lines of which are made of spaces and tabs, each line loses the longest
common start, and none is left. Moving the lines in by an indent has no effect on what is left when
the margin is taken off again, and so none on another indent in its place. No line is lost. -/
theorem reindent_absorbs {text i : String} (hblank : BlankHollow (lines text.toList))
    (hi : IsIndent i.toList) (j : String) :
    let ls := lines text.toList
    let ds := lines (dedented text).toList
    dedented (reindentBy i text) = dedented text ∧
      reindentBy j (reindentBy i text) = reindentBy j text ∧
      ds = ls.map (fun line => if allBlank line then [] else line.drop (margin ls).length) ∧
      ((∃ line ∈ ls, allBlank line = false) → IsMargin (margin ls) ls ∧ IsMargin [] ds) ∧
      ds.length = ls.length ∧ (lines (reindentBy i text).toList).length = ls.length := by
  intro ls ds
  have hds : ds = dedentLines ls := lines_dedented text
  have hlines := lines_reindentBy hi text
  have same : dedented (reindentBy i text) = dedented text := by
    refine String.toList_inj.1 (lines_injective ?_)
    rw [lines_dedented, hlines, dedentLines_map_indentLine hi (margin_dedentLines _)]
    · exact hds.symm
    · exact fun line => eq_nil_of_mem_dedentLines hblank
  refine ⟨same, ?_, ?_, fun hsome => ⟨isMargin_margin hblank hsome, ?_⟩, ?_, ?_⟩
  · rw [reindentBy_eq, same, ← reindentBy_eq]
  · rw [hds, dedentLines_eq]
    refine List.map_congr_left fun line hline => ?_
    rw [cutLine, hblank.allBlank_eq hline]
  · obtain ⟨line, hline⟩ := hsome
    have hcut : cutLine (margin ls).length line ∈ solid ds := by
      rw [hds, solid_dedentLines]
      exact List.mem_map_of_mem (hblank.mem_solid.2 hline)
    have hds' : BlankHollow ds := hds ▸ hblank.dedentLines
    have hmargin : margin ds = [] := hds ▸ margin_dedentLines ls
    rw [← hmargin]
    exact isMargin_margin hds' ⟨_, hds'.mem_solid.1 hcut⟩
  · rw [hds, dedentLines_eq, List.length_map]
  · rw [hlines, dedentLines_eq, List.length_map, List.length_map]

/-- Lines that share a tab and a space, a hollow one that shares nothing with them, and an indent in
which the tab comes last. -/
theorem reindent_absorbs_mixed :
    let text := "\t  a\n \t\n\t b\n"
    let moved := "  \t a\n\n  \tb\n"
    BlankHollow (lines text.toList) ∧ IsIndent "  \t".toList ∧
      (∃ line ∈ lines text.toList, allBlank line = false) ∧ reindentBy "  \t" text = moved ∧
      dedented moved = " a\n\nb\n" ∧ reindentBy "\t" moved = "\t a\n\n\tb\n" ∧
      IsMargin "\t ".toList (lines text.toList) := by
  intro text moved
  have hblank : BlankHollow (lines text.toList) := by decide
  have hi : IsIndent "  \t".toList := by decide
  have hsome : ∃ line ∈ lines text.toList, allBlank line = false := by decide
  have hmoved : reindentBy "  \t" text = moved := by decide
  obtain ⟨same, again, -, hmargin, -⟩ := reindent_absorbs hblank hi "\t"
  rw [hmoved] at same again
  have shared : margin (lines text.toList) = "\t ".toList := by decide
  refine ⟨hblank, hi, hsome, hmoved, same.trans (by decide), again.trans (by decide), ?_⟩
  exact shared ▸ (hmargin hsome).1

end SdlPhp.Text
