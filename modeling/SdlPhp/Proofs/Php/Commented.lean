import SdlPhp.Proofs.Php.CommentEnd
import SdlPhp.Proofs.Php.Indentation

/-!
# Comments of declarations in a tree

Giving a declaration a comment puts the lines of that comment in front of its own, and nothing else
changes. In a tree of declarations, where each of them is nested at one place at most, the text of
the whole then has these lines at one place, behind the indents of the declarations around
(`exists_inserts`). Main statement: `comment_unbroken`.
-/

namespace SdlPhp.Php

open Attempt
open Text (apart isIndentChar lines shift)

variable {new ls ms : List (List Char)} {d : Declaration} {texts : List String} {s : String}

/-! ## Lines put in -/

/-- The second lines are the first ones with new ones put in at one place. -/
def Inserts (new ls ms : List (List Char)) : Prop :=
  ∃ front back, ls = front ++ back ∧ ms = front ++ new ++ back

namespace Inserts

theorem map (h : Inserts new ls ms) (f : List Char → List Char) :
    Inserts (new.map f) (ls.map f) (ms.map f) := by
  obtain ⟨front, back, rfl, rfl⟩ := h
  exact ⟨front.map f, back.map f, by simp, by simp⟩

theorem around (h : Inserts new ls ms) (before after : List (List Char)) :
    Inserts new (before ++ ls ++ after) (before ++ ms ++ after) := by
  obtain ⟨front, back, rfl, rfl⟩ := h
  exact ⟨before ++ front, back ++ after, by simp, by simp⟩

/-- The marks of the new lines come to those that are there. -/
theorem sum_endCount (h : Inserts new ls ms) :
    (ms.map endCount).sum = (ls.map endCount).sum + (new.map endCount).sum := by
  obtain ⟨front, back, rfl, rfl⟩ := h
  simp only [List.map_append, List.sum_append]
  omega

end Inserts

/-! ## One declaration -/

namespace Declaration

/-- A text of a declaration ends with a line feed. -/
theorem IsText.lines_eq (h : IsText s) : lines s.toList = (lines s.toList).dropLast ++ [[]] := by
  obtain ⟨d, texts, rfl⟩ := h
  rw [lines_textWith_parts]
  simp

/-- The empty line behind that line feed has no mark. -/
theorem IsText.sum_endCount (h : IsText s) :
    ((lines s.toList).dropLast.map endCount).sum = endCount s.toList := by
  have hlines := h.lines_eq
  rw [← endCount_lines s.toList]
  generalize (lines s.toList).dropLast = ls at hlines ⊢
  simp [hlines, endCount_nil]

/-- With a comment a declaration has the lines of that in front of its own. -/
theorem inserts_comment (texts : List String) (hd : d.comment = "") {description : String}
    (hdescription : description ≠ "") :
    Inserts (commentLines description.toList) (d.linesWith texts).dropLast
      ({ d with comment := docComment description }.linesWith texts).dropLast := by
  have hne : description.toList ≠ [] := by simpa using hdescription
  have hopening : lines { d with comment := docComment description }.opening.toList =
      commentLines description.toList ++ lines d.opening.toList := by
    rw [← lines_docCommentChars_append hne]
    unfold opening
    rw [hd]
    simp [docComment, header, annotationLines]
  refine ⟨[], (d.linesWith texts).dropLast, rfl, ?_⟩
  rw [dropLast_linesWith, dropLast_linesWith, hopening]
  simp only [List.append_assoc, List.nil_append]
  rfl

/-- What is put into the text of a nested declaration is put into the text around it, one indent
in. -/
theorem inserts_nested (d : Declaration) (before after : List String) {s s' : String}
    (h : Inserts new (lines s.toList).dropLast (lines s'.toList).dropLast) :
    Inserts (new.map (shift d.indent.toList)) (d.linesWith (before ++ s :: after)).dropLast
      (d.linesWith (before ++ s' :: after)).dropLast := by
  let moved (s : String) := (lines s.toList).dropLast.map (shift d.indent.toList)
  obtain ⟨front, back, hapart⟩ := Text.exists_apart_around (before.map moved) (after.map moved)
  have hnested (s : String) :
      apart ((before ++ s :: after).map moved) = front ++ moved s ++ back := by
    rw [List.map_append, List.map_cons, hapart]
  rw [dropLast_linesWith, dropLast_linesWith]
  -- of the parts of the text only the one with the nested declarations differs
  change Inserts _ (_ ++ apart ((before ++ s :: after).map moved) ++ _ ++ _)
    (_ ++ apart ((before ++ s' :: after).map moved) ++ _ ++ _)
  rw [hnested, hnested]
  have hmoved := (h.map (shift d.indent.toList)).around front back
  have hwhole := hmoved.around (lines d.opening.toList ++ partLines d.memberPart ++
    apart (d.methods.map fun m => (lines (m.text d.indent).toList).map (shift d.indent.toList)))
    (partLines (d.block.getD "") ++ [['}']])
  simpa only [List.append_assoc] using hwhole

end Declaration

/-! ## Trees of declarations -/

namespace Declarations

variable {t u : Declarations} {root outer inner j k : String} {ds : List Declaration} {n : Nat}

/-- What stands in the declaration is in the table and forms a tree: nothing stands in itself, and
everything is nested at one place at most. -/
structure IsTree (t : Declarations) (id : String) : Prop extends Grounded t id where
  once : ∀ j d, t.Reaches id j → t.get? j = some d → d.nested.Nodup
  parent : ∀ j k inner, t.Reaches id j → t.Reaches id k → t.Nests j inner → t.Nests k inner → j = k

/-- It is enough that the entries of the table form a tree. -/
theorem WellNested.isTree (h : t.WellNested) (hroot : root ∈ t.keys)
    (honce : ∀ e ∈ t, e.2.nested.Nodup)
    (hparent : ∀ e ∈ t, ∀ f ∈ t, ∀ i ∈ e.2.nested, i ∈ f.2.nested → e.1 = f.1) :
    t.IsTree root where
  toGrounded := h.grounded hroot
  once := fun j d _ hd => honce (j, d) (Entries.mem_of_get?_eq_some hd)
  parent := by
    rintro j k i - - ⟨d, hd, hi⟩ ⟨e, he, hi'⟩
    exact hparent (j, d) (Entries.mem_of_get?_eq_some hd) (k, e) (Entries.mem_of_get?_eq_some he)
      i hi hi'

theorem IsTree.of_nests (h : t.IsTree outer) (hnests : t.Nests outer inner) : t.IsTree inner where
  toGrounded := h.toGrounded.of_nests hnests
  once := fun j d hj => h.once j d (.head hnests hj)
  parent := fun j k i hj hk => h.parent j k i (.head hnests hj) (.head hnests hk)

/-- Of two declarations in which the same one stands, one stands in the other. -/
theorem IsTree.reaches_or (h : t.IsTree root) (hj : t.Reaches root j) (hk : t.Reaches root k)
    (hjinner : t.Reaches j inner) (hkinner : t.Reaches k inner) :
    t.Reaches j k ∨ t.Reaches k j := by
  -- from `inner` up both ways are the same, until one of them is at its start
  induction hjinner with
  | refl => exact .inr hkinner
  | @tail b c hjb hbc ih =>
    rcases Relation.ReflTransGen.cases_tail hkinner with rfl | ⟨e, hke, hec⟩
    · exact .inl (.tail hjb hbc)
    · obtain rfl : b = e := h.parent b e c (hj.trans hjb) (hk.trans hke) hbc hec
      exact ih hke

theorem IsTree.not_reaches_of_nests (h : t.IsTree outer) (hj : t.Nests outer j)
    (hk : t.Nests outer k) (hne : j ≠ k) : ¬ t.Reaches j k := by
  intro hjk
  rcases Relation.ReflTransGen.cases_tail hjk with rfl | ⟨b, hjb, hbk⟩
  · exact hne rfl
  · obtain rfl : b = outer := h.parent b outer k (.head hj hjb) .refl hbk hk
    exact h.acyclic b .refl (Relation.TransGen.head' hj hjb)

/-- What stands in one of the nested declarations stands in no other one. -/
theorem IsTree.not_reaches (h : t.IsTree outer) (hj : t.Nests outer j) (hk : t.Nests outer k)
    (hne : j ≠ k) (hkinner : t.Reaches k inner) : ¬ t.Reaches j inner := by
  intro hjinner
  rcases h.reaches_or (.single hj) (.single hk) hjinner hkinner with hjk | hkj
  · exact h.not_reaches_of_nests hj hk hne hjk
  · exact h.not_reaches_of_nests hk hj hne.symm hkj

theorem Path.reaches (h : Path t outer ds inner) : t.Reaches outer inner := by
  induction h with
  | here id => exact .refl
  | inside hd hnext _ ih => exact .head ⟨_, hd, hnext⟩ ih

/-- The indents of the declaration and of those that stand in it are spaces and tabs. -/
def Indented (t : Declarations) (id : String) : Prop :=
  ∀ j d, t.Reaches id j → t.get? j = some d → ∀ c ∈ d.indent.toList, isIndentChar c = true

theorem Indented.of_nests (h : t.Indented outer) (hnests : t.Nests outer inner) :
    t.Indented inner := fun j d hj hd => h j d (.head hnests hj) hd

theorem Indented.inLine (h : t.Indented outer) : t.InLine outer := by
  intro j d hj hd hmem
  exact absurd (h j d hj hd '\n' hmem) (by decide)

/-- Moving a line in behind the indents of declarations makes no mark and breaks none. -/
theorem Indented.endCount_moved (h : t.Indented outer) (hpath : Path t outer ds inner)
    (line : List Char) : endCount (moved ds line) = endCount line := by
  induction hpath with
  | here id => rfl
  | @inside outer next inner d ds hd hnext _ ih =>
    have hcons : moved (d :: ds) line = shift d.indent.toList (moved ds line) := rfl
    rw [hcons, endCount_shift (h outer d .refl hd), ih (h.of_nests ⟨d, hd, hnext⟩)]

/-! ## Comments in trees -/

theorem isText_of_textWithin (h : t.textWithin n j = some s) : Declaration.IsText s := by
  cases n with
  | zero => cases h
  | succ n =>
    obtain ⟨d, texts, -, -, rfl⟩ := textWithin_succ_eq_some.1 h
    exact ⟨d, texts, rfl⟩

theorem isText_of_forall₂ {js : List String}
    (h : List.Forall₂ (fun j text => t.textWithin n j = some text) js texts) :
    ∀ text ∈ texts, Declaration.IsText text := by
  intro text htext
  obtain ⟨j, -, hj⟩ := exists_of_mem_right h htext
  exact isText_of_textWithin hj

/-- The tables are the same but for the comment of a declaration, which it has in the second one
alone. -/
structure Commented (t u : Declarations) (inner : String) (d : Declaration) (description : String) :
    Prop where
  bare : t.get? inner = some d
  noComment : d.comment = ""
  described : description ≠ ""
  commented : u.get? inner = some { d with comment := docComment description }
  others : ∀ k, k ≠ inner → u.get? k = t.get? k
  length : u.length = t.length

theorem commented_of_apply {description : String} (hd : t.get? inner = some d)
    (hbare : d.comment = "") (hdescription : description ≠ "")
    (h : t.apply inner (.setComment description) = .ok u) :
    Commented t u inner d description := by
  have hempty : description.isEmpty = false := by simpa using hdescription
  simp only [Declarations.apply, Declaration.apply, hd, hempty, Bool.false_eq_true, if_false,
    Except.map, Except.ok.injEq] at h
  subst h
  have hkey : inner ∈ t.keys := Entries.mem_keys_of_mem (Entries.mem_of_get?_eq_some hd)
  exact {
    bare := hd
    noComment := hbare
    described := hdescription
    commented := Entries.get?_put_self _ _ _
    others := fun k hk => Entries.get?_put_of_ne t _ (Ne.symm hk)
    length := by
      have hkeys := congrArg List.length (Entries.keys_put_of_mem
        { d with comment := docComment description } hkey)
      simpa [Entries.keys] using hkeys }

namespace Commented

variable {description : String}

/-- A declaration in which the commented one does not stand keeps its text. -/
theorem textWithin_of_not_reaches (h : Commented t u inner d description)
    (hreach : ¬ t.Reaches j inner) (hs : t.textWithin n j = some s) :
    u.textWithin n j = some s := by
  apply textWithin_congr _ hs
  intro k hk
  apply h.others
  rintro rfl
  exact hreach hk

/-- The commented declaration itself has the lines of its comment in front of the others. -/
theorem exists_inserts_self (h : Commented t u inner d description) (htree : t.IsTree inner)
    (hline : t.InLine inner) (hs : t.textWithin n inner = some s) :
    ∃ s', u.textWithin n inner = some s' ∧ Inserts (commentLines description.toList)
      (lines s.toList).dropLast (lines s'.toList).dropLast := by
  cases n with
  | zero => cases hs
  | succ n =>
    obtain ⟨e, texts, he, htexts, rfl⟩ := textWithin_succ_eq_some.1 hs
    obtain rfl : d = e := Option.some.inj (h.bare.symm.trans he)
    have hkept : List.Forall₂ (fun j text => u.textWithin n j = some text) d.nested texts := by
      apply imp_of_mem htexts
      intro j hj text
      apply h.textWithin_of_not_reaches
      intro hreach
      exact htree.acyclic inner .refl (Relation.TransGen.head' ⟨d, he, hj⟩ hreach)
    have hindent : '\n' ∉ d.indent.toList := hline inner d .refl he
    have hindent' : '\n' ∉ { d with comment := docComment description }.indent.toList := hindent
    refine ⟨_, textWithin_succ_eq_some.2 ⟨_, texts, h.commented, hkept, rfl⟩, ?_⟩
    rw [Declaration.lines_textWith hindent (isText_of_forall₂ htexts),
      Declaration.lines_textWith hindent' (isText_of_forall₂ htexts)]
    exact Declaration.inserts_comment texts h.noComment h.described

/-- What is put into the text of a nested declaration comes into that of the declaration around it,
as none of the others that are nested there changes. -/
theorem exists_inserts_around (h : Commented t u inner d description) (htree : t.IsTree outer)
    (hline : t.InLine outer) {e : Declaration} (he : t.get? outer = some e)
    (hnext : j ∈ e.nested) (hreach : t.Reaches j inner)
    (hinner : ∀ {n s}, t.textWithin n j = some s → ∃ s', u.textWithin n j = some s' ∧
      Inserts new (lines s.toList).dropLast (lines s'.toList).dropLast)
    (hs : t.textWithin n outer = some s) :
    ∃ s', u.textWithin n outer = some s' ∧ Inserts (new.map (shift e.indent.toList))
      (lines s.toList).dropLast (lines s'.toList).dropLast := by
  cases n with
  | zero => cases hs
  | succ n =>
    obtain ⟨e', texts, he', htexts, rfl⟩ := textWithin_succ_eq_some.1 hs
    obtain rfl : e = e' := Option.some.inj (he.symm.trans he')
    have hnests : t.Nests outer j := ⟨e, he, hnext⟩
    have hothers : ∀ k ∈ e.nested, k ≠ j → ∀ text, t.textWithin n k = some text →
        u.textWithin n k = some text := by
      intro k hk hne text
      apply h.textWithin_of_not_reaches
      exact htree.not_reaches ⟨e, he, hk⟩ hnests hne hreach
    obtain ⟨before, s, after, rfl, hs, hexchange⟩ :=
      exists_exchange htexts hnext (htree.once outer e .refl he) hothers
    obtain ⟨s', hs', hinserts⟩ := hinner hs
    have hkept := hexchange s' hs'
    have hne : outer ≠ inner := by
      rintro rfl
      exact htree.acyclic outer .refl (Relation.TransGen.head' hnests hreach)
    have hindent : '\n' ∉ e.indent.toList := hline outer e .refl he
    refine ⟨_, textWithin_succ_eq_some.2 ⟨e, _, (h.others outer hne).trans he, hkept, rfl⟩, ?_⟩
    rw [Declaration.lines_textWith hindent (isText_of_forall₂ htexts),
      Declaration.lines_textWith hindent (isText_of_forall₂ hkept)]
    exact e.inserts_nested before after hinserts

/-- The text of a tree with a comment is that without it, with the lines of the comment put in
behind the indents of the declarations around. -/
theorem exists_inserts (h : Commented t u inner d description) (hpath : Path t outer ds inner)
    (htree : t.IsTree outer) (hline : t.InLine outer) (hs : t.textWithin n outer = some s) :
    ∃ s', u.textWithin n outer = some s' ∧
      Inserts ((commentLines description.toList).map (moved ds)) (lines s.toList).dropLast
        (lines s'.toList).dropLast := by
  induction hpath generalizing n s with
  | here inner =>
    have hmoved : (commentLines description.toList).map (moved []) =
        commentLines description.toList := List.map_id' _
    rw [hmoved]
    exact h.exists_inserts_self htree hline hs
  | @inside outer next inner e ds he hnext hpath ih =>
    have hmoved : (commentLines description.toList).map (moved (e :: ds)) =
        ((commentLines description.toList).map (moved ds)).map (shift e.indent.toList) := by
      rw [List.map_map]
      rfl
    have hnests : t.Nests outer next := ⟨e, he, hnext⟩
    rw [hmoved]
    exact h.exists_inserts_around htree hline he hnext hpath.reaches
      (ih h (htree.of_nests hnests) (hline.of_nests hnests)) hs

end Commented

/-! ## Marks in trees -/

/-- A line of a comment stands behind the indents. -/
theorem moved_of_mem_commentLines {description line : List Char} (ds : List Declaration)
    (h : line ∈ commentLines description) : moved ds line = indents ds ++ line := by
  have hblank := allBlank_commentLines line h
  have hline : line = shift [] line := by rw [Text.shift_of_not_blank [] hblank, List.nil_append]
  conv_lhs => rw [hline]
  rw [moved_shift, List.append_nil, Text.shift_of_not_blank _ hblank]

/-- Whatever the description of a declaration is, its comment is not broken off: the mark that ends
it stands right before the line feed at its end and nowhere else, and each line of a description
with several lines has a line of its own. In a tree of declarations that has no such mark without
the comment, and whose indents are spaces and tabs, the comment stands line by line behind the
indents of the declarations around it, and its mark is the only one. -/
theorem comment_unbroken (c : String) (hc : c ≠ "") :
    "/**".toList <+: (docComment c).toList ∧
    (∃ body, (docComment c).toList = body ++ "*/\n".toList ∧
      EndsBehind (docComment c).toList body) ∧
    (1 < (lines c.toList).length → lines (docComment c).toList =
      "/**".toList :: (lines c.toList).map (" * ".toList ++ escapeCommentEnd ·) ++
        [" */".toList, []]) ∧
    ∀ t u outer inner ds d, IsTree t outer → Indented t outer → Path t outer ds inner →
      t.get? inner = some d → d.comment = "" → t.apply inner (.setComment c) = .ok u →
      ∃ s s' front back, t.text? outer = some s ∧ u.text? outer = some s' ∧
        lines s.toList = front ++ back ∧
        lines s'.toList =
          front ++ (lines (docComment c).toList).dropLast.map (indents ds ++ ·) ++ back ∧
        (¬ "*/".toList <:+: s.toList → ∃ before, EndsBehind s'.toList before) := by
  have hne : c.toList ≠ [] := by simpa using hc
  have hlines := lines_docCommentChars hne
  have htext : (docComment c).toList = docCommentChars c.toList := String.toList_ofList
  obtain ⟨hopen, hend⟩ := docCommentChars_unbroken hne
  rw [htext]
  refine ⟨hopen, hend, ?several, ?nested⟩
  case several =>
    intro hlength
    rw [hlines, commentLines_of_length hlength]
    simp
  case nested =>
    intro t u outer inner ds d htree hindented hpath hd hbare hcall
    obtain ⟨s, hs⟩ := htree.exists_text
    have hcommented := commented_of_apply hd hbare hc hcall
    obtain ⟨s', hs', front, back, hfront, hback⟩ :=
      hcommented.exists_inserts hpath htree hindented.inLine hs
    have hwhole := isText_of_textWithin hs
    have hwhole' := isText_of_textWithin hs'
    refine ⟨s, s', front, back ++ [[]], hs, ?_, ?_, ?_, ?_⟩
    · rw [text?, hcommented.length]
      exact hs'
    · rw [hwhole.lines_eq, hfront, List.append_assoc]
    · have hmoved : (commentLines c.toList).map (moved ds) =
          (commentLines c.toList).map (indents ds ++ ·) :=
        List.map_congr_left fun line hline => moved_of_mem_commentLines ds hline
      rw [hwhole'.lines_eq, hback, hlines, List.dropLast_concat, hmoved, List.append_assoc]
    · intro hnone
      rw [← endCount_eq_zero_iff] at hnone
      have hcount : (((commentLines c.toList).map (moved ds)).map endCount).sum = 1 := by
        have hmoved : endCount ∘ moved ds = endCount := funext (hindented.endCount_moved hpath)
        rw [List.map_map, hmoved, endCount_commentLines]
      have htotal := Inserts.sum_endCount ⟨front, back, hfront, hback⟩
      rw [hwhole.sum_endCount, hwhole'.sum_endCount] at htotal
      apply exists_endsBehind
      omega

/-- A description with a mark, and with stars in front of another one, at depth two. -/
theorem comment_unbroken_inner :
    let description := "ends */ here\n**/"
    let middle : Declaration := { indent := "  ", nested := ["inner"] }
    let outer : Declaration := { indent := "\t", nested := ["middle"] }
    let t : Declarations := [("outer", outer), ("middle", middle), ("inner", {})]
    ∃ u s', t.apply "inner" (.setComment description) = .ok u ∧ u.text? "outer" = some s' ∧
      (∃ before, EndsBehind s'.toList before) ∧
      ["\t  /**".toList, "\t   * ends *\\/ here".toList, "\t   * **\\/".toList,
        "\t   */".toList] <:+: lines s'.toList := by
  intro description middle outer t
  have hnested : t.WellNested := by
    apply wellNested_of_rank fun id => if id = "outer" then 2 else if id = "middle" then 1 else 0
    decide +kernel
  have htree : t.IsTree "outer" :=
    hnested.isTree (by decide) (by decide +kernel) (by decide +kernel)
  have hindented : t.Indented "outer" := by
    have each : ∀ e ∈ t, e.2.indent.toList.all isIndentChar = true := by decide +kernel
    exact fun j d _ hd => List.all_eq_true.1 (each (j, d) (Entries.mem_of_get?_eq_some hd))
  have hpath : Path t "outer" [outer, middle] "inner" :=
    .inside rfl List.mem_cons_self (.inside rfl List.mem_cons_self (.here "inner"))
  have hbare : t.text? "outer" = some "\x7b\n\t\x7b\n\t  \x7b\n\t  \x7d\n\t\x7d\n\x7d\n" := by
    decide +kernel
  have hcomment :
      (lines (docComment description).toList).dropLast.map (indents [outer, middle] ++ ·) =
      ["\t  /**".toList, "\t   * ends *\\/ here".toList, "\t   * **\\/".toList,
        "\t   */".toList] := by
    decide +kernel
  obtain ⟨u, hu⟩ : ∃ u, t.apply "inner" (.setComment description) = .ok u := ⟨_, rfl⟩
  obtain ⟨-, -, -, hinside⟩ := comment_unbroken description (by decide)
  obtain ⟨s, s', front, back, hs, hs', -, hlines, honly⟩ :=
    hinside t u "outer" "inner" _ _ htree hindented hpath rfl rfl hu
  have hnone : ¬ "*/".toList <:+: s.toList := by
    rw [← endCount_eq_zero_iff, ← Option.some.inj (hbare.symm.trans hs)]
    decide +kernel
  refine ⟨u, s', hu, hs', honly hnone, front, back, ?_⟩
  rw [hlines, hcomment]

end Declarations

end SdlPhp.Php
