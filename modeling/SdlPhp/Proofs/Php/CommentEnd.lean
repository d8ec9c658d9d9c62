import Mathlib
import SdlPhp.Php.Comment
import SdlPhp.Proofs.Text.Indent

/-!
# The end of a comment

The mark that ends a comment cannot stand across a line end, so that the marks of a text are those
of its lines (`endCount_lines`), and moving lines in makes no new ones (`endCount_shift`). A
description with its marks broken has none, and neither have the lines of its comment but for the
last one, so that there is one mark in the comment, right before the line feed at its end. Main
statements: `endCount_escapeCommentEnd` and `endCount_docCommentChars`.
-/

namespace SdlPhp.Php

open Text (allBlank isIndentChar lines shift unlines)

variable {cs ds before front after : List Char} {c : Char}

/-! ## Counting marks -/

/-- At how many places of a text the mark stands that ends a comment. -/
def endCount (cs : List Char) : Nat := cs.tails.countP (['*', '/'].isPrefixOf ·)

theorem endCount_nil : endCount [] = 0 := rfl

theorem endCount_cons (c : Char) (cs : List Char) :
    endCount (c :: cs) = endCount cs + if ['*', '/'].isPrefixOf (c :: cs) then 1 else 0 := by
  rw [endCount, List.tails_cons, List.countP_cons]
  rfl

theorem endCount_cons_of_ne (h : c ≠ '*') (cs : List Char) : endCount (c :: cs) = endCount cs := by
  have hne : ('*' == c) = false := by simpa using Ne.symm h
  rw [endCount_cons, List.isPrefixOf, hne]
  rfl

theorem endCount_cons_of_head? (c : Char) (h : cs.head? ≠ some '/') :
    endCount (c :: cs) = endCount cs := by
  rw [endCount_cons]
  cases cs with
  | nil => simp [List.isPrefixOf]
  | cons d cs =>
    have hne : d ≠ '/' := by simpa using h
    simp [List.isPrefixOf, hne.symm]

theorem endCount_mark (cs : List Char) : endCount ('*' :: '/' :: cs) = endCount cs + 1 := by
  rw [endCount_cons, endCount_cons_of_ne (by decide)]
  rfl

/-- Where no mark stands across the seam of two texts, their marks add up. -/
theorem endCount_append (h : cs.getLast? ≠ some '*' ∨ ds.head? ≠ some '/') :
    endCount (cs ++ ds) = endCount cs + endCount ds := by
  induction cs with
  | nil => simp [endCount_nil]
  | cons c cs ih =>
    cases cs with
    | nil =>
      have hone : endCount [c] = 0 := endCount_cons_of_head? c (by simp)
      rw [List.singleton_append, hone, Nat.zero_add]
      rcases h with h | h
      · exact endCount_cons_of_ne (by simpa using h) ds
      · exact endCount_cons_of_head? c h
    | cons d cs =>
      rw [List.getLast?_cons_cons] at h
      have hsame : ['*', '/'].isPrefixOf (c :: (d :: cs ++ ds)) =
          ['*', '/'].isPrefixOf (c :: d :: cs) := by simp [List.isPrefixOf]
      rw [List.cons_append, endCount_cons, endCount_cons c, ih h, hsame]
      omega

theorem endCount_append_of_not_mem (h : '*' ∉ cs) (ds : List Char) :
    endCount (cs ++ ds) = endCount ds := by
  induction cs with
  | nil => rfl
  | cons c cs ih =>
    rw [List.mem_cons, not_or] at h
    rw [List.cons_append, endCount_cons_of_ne (Ne.symm h.1), ih h.2]

theorem endCount_around (front after : List Char) :
    endCount (front ++ '*' :: '/' :: after) = endCount front + (endCount after + 1) := by
  rw [endCount_append (.inr (by simp)), endCount_mark]

theorem endCount_eq_zero_iff : endCount cs = 0 ↔ ¬ "*/".toList <:+: cs := by
  have hmark : "*/".toList = ['*', '/'] := by decide
  rw [endCount, List.countP_eq_zero, List.infix_iff_prefix_suffix, hmark]
  simp only [List.mem_tails, List.isPrefixOf_iff_prefix]
  constructor
  · rintro h ⟨ds, hprefix, hsuffix⟩
    exact h ds hsuffix hprefix
  · exact fun h ds hsuffix hprefix => h ⟨ds, hprefix, hsuffix⟩

/-! ## One mark -/

/-- The mark that ends a comment stands in the text behind this start of it, and nowhere else. -/
def EndsBehind (cs before : List Char) : Prop :=
  ∀ front, front ++ "*/".toList <+: cs ↔ front = before

theorem eq_nil_of_overlap {rest other : List Char} (h : endCount after = 0)
    (heq : '*' :: '/' :: after = rest ++ '*' :: '/' :: other) : rest = [] := by
  match rest, heq with
  | [], _ => rfl
  | [_], heq => simp at heq
  | _ :: _ :: rest, heq =>
    simp only [List.cons_append, List.cons.injEq] at heq
    obtain ⟨-, -, rfl⟩ := heq
    rw [endCount_around] at h
    omega

theorem endsBehind_of_endCount (h : endCount cs = 1) (hbefore : before ++ "*/".toList <+: cs) :
    EndsBehind cs before := by
  have hsplit {front : List Char} (hfront : front ++ "*/".toList <+: cs) :
      ∃ after, cs = front ++ '*' :: '/' :: after ∧ endCount after = 0 := by
    obtain ⟨after, rfl⟩ := hfront
    have hmark : front ++ "*/".toList ++ after = front ++ '*' :: '/' :: after := by simp
    rw [hmark, endCount_around] at h
    exact ⟨after, hmark, by omega⟩
  intro front
  constructor
  · intro hfront
    obtain ⟨after, hcs, hafter⟩ := hsplit hbefore
    obtain ⟨other, hcs', hother⟩ := hsplit hfront
    rcases List.append_eq_append_iff.1 (hcs.symm.trans hcs') with
      ⟨rest, rfl, hrest⟩ | ⟨rest, rfl, hrest⟩
    · rw [eq_nil_of_overlap hafter hrest, List.append_nil]
    · rw [eq_nil_of_overlap hother hrest, List.append_nil]
  · rintro rfl
    exact hbefore

theorem exists_endsBehind (h : endCount cs = 1) : ∃ before, EndsBehind cs before := by
  have hinfix : "*/".toList <:+: cs := by
    by_contra hnone
    rw [← endCount_eq_zero_iff] at hnone
    omega
  obtain ⟨before, after, hcs⟩ := hinfix
  exact ⟨before, endsBehind_of_endCount h ⟨after, hcs⟩⟩

/-! ## Lines -/

theorem endCount_append_newline (cs ds : List Char) :
    endCount (cs ++ '\n' :: ds) = endCount cs + endCount ds := by
  rw [endCount_append (.inr (by simp)), endCount_cons_of_ne (by decide)]

theorem endCount_unlines (ls : List (List Char)) :
    endCount (unlines ls) = (ls.map endCount).sum := by
  unfold unlines
  induction ls with
  | nil => rfl
  | cons l ls ih =>
    cases ls with
    | nil => rw [Text.join_singleton, List.map_singleton, List.sum_singleton]
    | cons k ls =>
      rw [Text.join_cons_cons, endCount_append_newline, ih]
      rfl

/-- The marks of a text are those of its lines. -/
theorem endCount_lines (cs : List Char) : ((lines cs).map endCount).sum = endCount cs := by
  rw [← endCount_unlines, unlines, lines, Text.join_pieces]

/-- Moving a line in behind spaces and tabs makes no mark and breaks none. -/
theorem endCount_shift {pre line : List Char} (hpre : ∀ c ∈ pre, isIndentChar c = true) :
    endCount (shift pre line) = endCount line := by
  unfold shift
  split
  · rename_i hollow
    have hstar : '*' ∉ line := by
      intro hmem
      rw [Text.isHollow, List.all_eq_true] at hollow
      exact absurd (hollow '*' hmem) (by decide)
    rw [← List.append_nil line, endCount_append_of_not_mem hstar]
  · split
    · rfl
    · apply endCount_append_of_not_mem
      exact fun hmem => absurd (hpre '*' hmem) (by decide)

/-! ## Broken marks -/

theorem head?_escapeCommentEnd (cs : List Char) : (escapeCommentEnd cs).head? = cs.head? := by
  fun_cases escapeCommentEnd cs <;> rfl

/-- No mark is left, and none arises where one was broken. -/
theorem endCount_escapeCommentEnd (cs : List Char) : endCount (escapeCommentEnd cs) = 0 := by
  fun_induction escapeCommentEnd cs with
  | case1 cs ih =>
    rw [endCount_cons_of_head? '*' (by simp), endCount_cons_of_ne (by decide),
      endCount_cons_of_ne (by decide), ih]
  | case2 c cs hmark ih =>
    by_cases hc : c = '*'
    · have hhead : (escapeCommentEnd cs).head? ≠ some '/' := by
        rw [head?_escapeCommentEnd]
        intro hslash
        obtain ⟨rest, rfl⟩ := List.head?_eq_some_iff.1 hslash
        exact hmark rest hc rfl
      rw [endCount_cons_of_head? c hhead, ih]
    · rw [endCount_cons_of_ne hc, ih]
  | case3 => rfl

theorem escapeCommentEnd_append_newline (cs ds : List Char) :
    escapeCommentEnd (cs ++ '\n' :: ds) = escapeCommentEnd cs ++ '\n' :: escapeCommentEnd ds := by
  fun_induction escapeCommentEnd cs with
  | case1 cs ih => simp [escapeCommentEnd, ih]
  | case2 c cs hmark ih =>
    rw [List.cons_append, List.cons_append, ← ih]
    apply escapeCommentEnd.eq_2
    rintro rest rfl hrest
    cases cs with
    | nil => simp at hrest
    | cons d cs =>
      obtain ⟨rfl, -⟩ := List.cons.inj hrest
      exact hmark cs rfl rfl
  | case3 => simp [escapeCommentEnd]

theorem newline_not_mem_escapeCommentEnd (h : '\n' ∉ cs) : '\n' ∉ escapeCommentEnd cs := by
  fun_induction escapeCommentEnd cs with
  | case1 cs ih => simp_all
  | case2 c cs hmark ih => simp_all
  | case3 => exact h

/-- A mark stands in one line, so that the lines can be escaped one by one. -/
theorem lines_escapeCommentEnd (cs : List Char) :
    lines (escapeCommentEnd cs) = (lines cs).map escapeCommentEnd := by
  have hunlines (ls : List (List Char)) :
      escapeCommentEnd (unlines ls) = unlines (ls.map escapeCommentEnd) := by
    unfold unlines
    induction ls with
    | nil => rfl
    | cons l ls ih =>
      cases ls with
      | nil => rw [Text.join_singleton, List.map_singleton, Text.join_singleton]
      | cons k ls =>
        simp only [List.map_cons] at ih ⊢
        rw [Text.join_cons_cons, escapeCommentEnd_append_newline, ih, Text.join_cons_cons]
  have hcs : cs = unlines (lines cs) := (Text.join_pieces '\n' cs).symm
  rw [← Text.lines_unlines_map (fun _ => newline_not_mem_escapeCommentEnd) cs, ← hunlines, ← hcs]

/-! ## Comments -/

/-- The lines of the comment of a description: one line if that has one, and else one line for each
of its lines, between one that opens the comment and one that ends it. -/
def commentLines (description : List Char) : List (List Char) :=
  match lines description with
  | [line] => ["/** ".toList ++ escapeCommentEnd line ++ " */".toList]
  | ls => "/**".toList :: ls.map (" * ".toList ++ escapeCommentEnd ·) ++ [" */".toList]

theorem commentLines_of_singleton {line : List Char} (h : lines cs = [line]) :
    commentLines cs = ["/** ".toList ++ escapeCommentEnd line ++ " */".toList] := by
  rw [commentLines, h]

theorem commentLines_of_length (h : 1 < (lines cs).length) :
    commentLines cs =
      "/**".toList :: (lines cs).map (" * ".toList ++ escapeCommentEnd ·) ++ [" */".toList] := by
  unfold commentLines
  split
  · rename_i line hline
    rw [hline] at h
    simp at h
  · rfl

/-- A description has one line or several. -/
theorem lines_cases (cs : List Char) : (∃ line, lines cs = [line]) ∨ 1 < (lines cs).length := by
  have hpos := List.length_pos_iff.2 (Text.pieces_ne_nil '\n' cs)
  by_cases h : 1 < (lines cs).length
  · exact .inr h
  · left
    apply List.length_eq_one_iff.1
    unfold lines at h ⊢
    omega

/-- What is true of each of the forms that a line of a comment can have. -/
theorem forall_mem_commentLines {p : List Char → Prop}
    (hone : ∀ line ∈ lines cs, p ("/** ".toList ++ escapeCommentEnd line ++ " */".toList))
    (hopen : p "/**".toList) (hline : ∀ line ∈ lines cs, p (" * ".toList ++ escapeCommentEnd line))
    (hclose : p " */".toList) : ∀ line ∈ commentLines cs, p line := by
  rcases lines_cases cs with ⟨line, h⟩ | h
  · rw [commentLines_of_singleton h, List.forall_mem_singleton]
    exact hone line (by simp [h])
  · rw [commentLines_of_length h, List.forall_mem_append, List.forall_mem_cons, List.forall_mem_map,
      List.forall_mem_singleton]
    exact ⟨⟨hopen, hline⟩, hclose⟩

theorem newline_not_mem_commentLines : ∀ line ∈ commentLines cs, '\n' ∉ line := by
  have hescaped {line : List Char} (h : line ∈ lines cs) : '\n' ∉ escapeCommentEnd line :=
    newline_not_mem_escapeCommentEnd (Text.sep_not_mem_of_mem_pieces h)
  apply forall_mem_commentLines
  · intro line h
    simp [hescaped h]
  · decide
  · intro line h
    simp [hescaped h]
  · decide

/-- No line of a comment is blank. -/
theorem allBlank_commentLines : ∀ line ∈ commentLines cs, allBlank line = false := by
  have hstar : Text.isBlank '*' = false := by decide
  apply forall_mem_commentLines
  · intro line _
    simp [allBlank, hstar]
  · decide
  · intro line _
    simp [allBlank, hstar]
  · decide

/-- The line that ends a comment has the only mark in it. -/
theorem endCount_commentLines (cs : List Char) : ((commentLines cs).map endCount).sum = 1 := by
  have hclose : endCount " */".toList = 1 := by decide
  rcases lines_cases cs with ⟨line, h⟩ | h
  · have hone : endCount ("/** ".toList ++ escapeCommentEnd line ++ " */".toList) = 1 := by
      rw [endCount_append (.inr (by decide)), endCount_append (.inl (by decide)),
        endCount_escapeCommentEnd, hclose]
      rfl
    rw [commentLines_of_singleton h, List.map_singleton, List.sum_singleton, hone]
  · have hline (line : List Char) : endCount (" * ".toList ++ escapeCommentEnd line) = 0 := by
      rw [endCount_append (.inl (by decide)), endCount_escapeCommentEnd]
      rfl
    have hlines : (((lines cs).map (" * ".toList ++ escapeCommentEnd ·)).map endCount).sum = 0 := by
      have hzero : endCount ∘ (" * ".toList ++ escapeCommentEnd ·) = fun _ => 0 := funext hline
      rw [List.map_map, hzero]
      simp
    rw [commentLines_of_length h, List.map_append, List.map_cons, List.sum_append, List.sum_cons,
      hlines, List.map_singleton, List.sum_singleton, hclose]
    rfl

theorem docCommentChars_eq (h : cs ≠ []) :
    docCommentChars cs = unlines (commentLines cs) ++ ['\n'] := by
  have hsome : cs.isEmpty ≠ true := by simpa using h
  have hend : " */\n".toList = " */".toList ++ ['\n'] := by decide
  unfold docCommentChars commentLines
  rw [if_neg hsome, lines_escapeCommentEnd, hend]
  cases hlines : lines cs with
  | nil => exact absurd hlines (Text.pieces_ne_nil '\n' cs)
  | cons l ls =>
    cases ls with
    | nil => simp [unlines, Text.join_singleton]
    | cons k ls =>
      simp only [List.map_cons, List.map_map]
      rw [unlines, unlines, Text.join_append_singleton]
      rfl

/-- The lines of a comment stand in front of those of what follows it. -/
theorem lines_docCommentChars_append (h : cs ≠ []) (ds : List Char) :
    lines (docCommentChars cs ++ ds) = commentLines cs ++ lines ds := by
  have hne : commentLines cs ≠ [] := by
    unfold commentLines
    split <;> simp
  have hlines : lines (unlines (commentLines cs)) = commentLines cs :=
    Text.lines_unlines hne newline_not_mem_commentLines
  rw [docCommentChars_eq h, List.append_assoc, List.singleton_append, lines, Text.pieces_append]
  exact congrArg (· ++ lines ds) hlines

theorem lines_docCommentChars (h : cs ≠ []) :
    lines (docCommentChars cs) = commentLines cs ++ [[]] := by
  rw [← List.append_nil (docCommentChars cs), lines_docCommentChars_append h]
  rfl

theorem endCount_docCommentChars (h : cs ≠ []) : endCount (docCommentChars cs) = 1 := by
  rw [← endCount_lines, lines_docCommentChars h, List.map_append, List.sum_append,
    endCount_commentLines]
  rfl

/-- The first line opens the comment, and the last one ends it. -/
theorem exists_commentLines (cs : List Char) :
    (∃ p ps, commentLines cs = ("/**".toList ++ p) :: ps) ∧
      ∃ ps p, commentLines cs = ps ++ [p ++ "*/".toList] := by
  rcases lines_cases cs with ⟨line, h⟩ | h
  · rw [commentLines_of_singleton h]
    constructor
    · exact ⟨' ' :: (escapeCommentEnd line ++ " */".toList), [], by simp⟩
    · exact ⟨[], "/** ".toList ++ escapeCommentEnd line ++ [' '], by simp⟩
  · rw [commentLines_of_length h]
    exact ⟨⟨[], _, rfl⟩, _, [' '], rfl⟩

/-- A comment opens with its mark, ends with the other mark and a line feed, and has that mark at no
other place. -/
theorem docCommentChars_unbroken (h : cs ≠ []) :
    "/**".toList <+: docCommentChars cs ∧ ∃ body, docCommentChars cs = body ++ "*/\n".toList ∧
      EndsBehind (docCommentChars cs) body := by
  obtain ⟨⟨p, ps, hfirst⟩, qs, q, hlast⟩ := exists_commentLines cs
  constructor
  · rw [docCommentChars_eq h, hfirst, unlines, ← Text.append_join_cons, List.append_assoc]
    exact List.prefix_append _ _
  · have hbody : docCommentChars cs = Text.join '\n' (qs ++ [q]) ++ "*/\n".toList := by
      have hend : "*/\n".toList = "*/".toList ++ ['\n'] := by decide
      rw [docCommentChars_eq h, hlast, unlines, ← Text.join_append_singleton, hend,
        List.append_assoc]
    refine ⟨_, hbody, endsBehind_of_endCount (endCount_docCommentChars h) ?_⟩
    rw [hbody]
    exact ⟨['\n'], by simp⟩

end SdlPhp.Php
