import Mathlib.Data.List.TakeWhile
import SdlPhp.Delivery.Markup
import SdlPhp.Proofs.Attempt

/-!
# Escaped texts

A message that holds an escaped text between tags of its own can always be shown. In an escaped text
an odd number of backslashes stands before every tag, so nothing in it is read as a tag, and a tag
behind it closes what has been opened before it, unless backslashes at the end of the text escape
it. Main statements: `lines_label` and `lines_around`.
-/

namespace SdlPhp.Markup

open Attempt

/-! ## Tags in a text -/

/-- What may stand between the brackets of a tag. -/
structure IsContent (content : List Char) : Prop where
  starts : ∃ c cs, content = c :: cs ∧ startsTag c = true
  inside : ∀ c ∈ content, isBracket c = false

theorem isContent_cons {c : Char} {cs : List Char} (hc : startsTag c = true)
    (h : (c :: cs).all (!isBracket ·) = true) : IsContent (c :: cs) where
  starts := ⟨c, cs, rfl, hc⟩
  inside := fun d hd => by simpa using List.all_eq_true.1 h d hd

theorem isBracket_of_startsTag {c : Char} (h : startsTag c = true) : isBracket c = false := by
  rw [isBracket, Bool.or_eq_false_iff, beq_eq_false_iff_ne, beq_eq_false_iff_ne]
  constructor <;> rintro rfl <;> exact absurd h (by decide)

theorem tag?_eq_some_iff {cs content rest : List Char} :
    tag? cs = some (content, rest) ↔ cs = '[' :: content ++ ']' :: rest ∧ IsContent content := by
  constructor
  · intro h
    unfold tag? at h
    split at h
    · rename_i c ds
      split at h
      · rename_i tail hdrop
        split at h
        · rename_i hc
          cases h
          refine ⟨?_, ⟨c, _, rfl, hc⟩, ?_⟩
          · conv_lhs => rw [← List.takeWhile_append_dropWhile (p := (!isBracket ·)) (l := ds), hdrop]
            simp
          · rw [List.forall_mem_cons]
            refine ⟨isBracket_of_startsTag hc, fun d hd => ?_⟩
            simpa using List.mem_takeWhile_imp hd
        · cases h
      · cases h
    · cases h
  · rintro ⟨rfl, ⟨c, ds, rfl, hc⟩, inside⟩
    rw [List.forall_mem_cons] at inside
    have notBracket : ∀ d ∈ ds, (!isBracket d) = true := fun d hd => by rw [inside.2 d hd]; rfl
    have closing : (!isBracket ']') = false := rfl
    simp only [List.cons_append, tag?]
    rw [List.dropWhile_append_of_pos notBracket, List.takeWhile_append_of_pos notBracket,
      List.dropWhile_cons_of_neg (by simp [closing]), List.takeWhile_cons_of_neg (by simp [closing])]
    simp [hc]

/-- A bracket opens a tag if the first bracket behind it closes it. -/
theorem isSome_tag?_iff {c : Char} {cs : List Char} :
    (tag? ('[' :: c :: cs)).isSome = true ↔
      startsTag c = true ∧ cs.find? isBracket = some ']' := by
  have first : (cs.dropWhile (!isBracket ·)).head? = cs.find? isBracket :=
    (List.find?_eq_head?_dropWhile_not isBracket cs).symm
  rw [tag?]
  split
  · rename_i rest hdrop
    rw [hdrop] at first
    rw [← first]
    cases startsTag c <;> simp
  · rename_i hdrop
    simp only [Option.isSome_none, Bool.false_eq_true, false_iff, not_and]
    intro _ hfind
    rw [hfind] at first
    cases hcs : cs.dropWhile (!isBracket ·) with
    | nil => simp [hcs] at first
    | cons d ds =>
      rw [hcs] at first
      cases first
      exact hdrop ds hcs

/-! ## The parts of a text, equation by equation -/

theorem parts_nil : parts [] = [] := by
  rw [parts]
  simp [tag?]

theorem parts_of_tag {cs content rest : List Char}
    (h : tag? (cs.dropWhile isBackslash) = some (content, rest)) :
    parts cs = .tag (cs.takeWhile isBackslash).length content :: parts rest := by
  rw [parts]
  split
  · rename_i h'
    rw [h] at h'
    cases h'
    rfl
  · rename_i h'
    rw [h] at h'
    cases h'

theorem parts_of_none {c : Char} {cs : List Char}
    (h : tag? ((c :: cs).dropWhile isBackslash) = none) :
    parts (c :: cs) = addChar c (parts cs) := by
  rw [parts]
  split
  · rename_i h'
    rw [h] at h'
    cases h'
  · rfl

/-! ## Escaped characters -/

/-- The characters in which every tag is escaped. -/
def escapedChars (cs : List Char) : List Char := (parts cs).flatMap Part.escaped

theorem toList_escape (s : String) :
    ∃ k, (escape s).toList = escapedChars s.toList ++ backslashes k := by
  rw [escape]
  split
  · exact ⟨1, by rw [String.toList_ofList]; rfl⟩
  · exact ⟨0, by rw [String.toList_ofList]; simp [backslashes, escapedChars]⟩

theorem escapedChars_nil : escapedChars [] = [] := by
  rw [escapedChars, parts_nil]
  rfl

theorem escapedChars_of_tag {cs content rest : List Char}
    (h : tag? (cs.dropWhile isBackslash) = some (content, rest)) :
    escapedChars cs = backslashes (2 * (cs.takeWhile isBackslash).length + 1) ++
      ('[' :: content ++ ']' :: escapedChars rest) := by
  rw [escapedChars, parts_of_tag h]
  simp [Part.escaped, escapedChars]

theorem escapedChars_of_none {c : Char} {cs : List Char}
    (h : tag? ((c :: cs).dropWhile isBackslash) = none) :
    escapedChars (c :: cs) = c :: escapedChars cs := by
  rw [escapedChars, parts_of_none h, escapedChars]
  cases parts cs with
  | nil => rfl
  | cons p ps => cases p <;> rfl

/-- The backslashes at the front of a text with a tag behind them. -/
theorem eq_of_tag {cs content rest : List Char}
    (h : tag? (cs.dropWhile isBackslash) = some (content, rest)) :
    cs = cs.takeWhile isBackslash ++ ('[' :: content ++ ']' :: rest) := by
  conv_lhs => rw [← List.takeWhile_append_dropWhile (p := isBackslash) (l := cs)]
  rw [(tag?_eq_some_iff.1 h).1]

theorem find?_backslashes_append (n : Nat) (cs : List Char) :
    (backslashes n ++ cs).find? isBracket = cs.find? isBracket := by
  induction n with
  | zero => rfl
  | succ n ih => exact ih

/-- Escaping moves no bracket to the front. -/
theorem find?_escapedChars (cs : List Char) :
    (escapedChars cs).find? isBracket = cs.find? isBracket := by
  induction cs using parts.induct with
  | case1 cs content rest h _ _ ih =>
    have front : (cs.takeWhile isBackslash).find? isBracket = none := by
      rw [List.find?_eq_none]
      intro c hc
      have := List.mem_takeWhile_imp hc
      rw [isBackslash, beq_iff_eq] at this
      subst this
      decide
    rw [escapedChars_of_tag h, find?_backslashes_append]
    conv_rhs => rw [eq_of_tag h, List.find?_append, front]
    rfl
  | case2 => rw [escapedChars_nil]
  | case3 c cs h ih => rw [escapedChars_of_none h, List.find?_cons, List.find?_cons, ih]

/-- What may start a tag is no tag and is kept. -/
theorem escapedChars_eq_cons {c : Char} {cs ds : List Char} (h : escapedChars cs = c :: ds)
    (hc : startsTag c = true) : ∃ es, cs = c :: es ∧ ds = escapedChars es := by
  cases htag : tag? (cs.dropWhile isBackslash) with
  | some found =>
    rw [escapedChars_of_tag htag, backslashes, List.replicate_succ] at h
    cases h
    exact absurd hc (by decide)
  | none =>
    cases cs with
    | nil =>
      rw [escapedChars_nil] at h
      cases h
    | cons d es =>
      rw [escapedChars_of_none htag] at h
      cases h
      exact ⟨es, rfl, rfl⟩

/-- A tag is no tag any more where it is escaped, and what stands behind the escaped text neither
makes a tag of it. -/
theorem tag?_escapedChars_append {cs u : List Char}
    (htag : tag? (cs.dropWhile isBackslash) = none) (hcs : cs.dropWhile isBackslash ≠ [])
    (starts : ∀ c ∈ u.head?, startsTag c = false) (closes : u.find? isBracket ≠ some ']') :
    tag? ((escapedChars cs ++ u).dropWhile isBackslash) = none := by
  induction cs with
  | nil => exact absurd rfl hcs
  | cons c cs ih =>
    rw [escapedChars_of_none htag, List.cons_append]
    cases hc : isBackslash c with
    | true =>
      rw [List.dropWhile_cons_of_pos hc] at htag hcs ⊢
      exact ih htag hcs
    | false =>
      have here (ds : List Char) : (c :: ds).dropWhile isBackslash = c :: ds :=
        List.dropWhile_cons_of_neg (by rw [hc]; exact Bool.false_ne_true)
      rw [here] at htag ⊢
      by_contra hsome
      obtain ⟨⟨content, rest⟩, hfound⟩ := Option.ne_none_iff_exists'.1 hsome
      obtain ⟨heq, ⟨d, ds, rfl, hd⟩, -⟩ := tag?_eq_some_iff.1 hfound
      rw [List.cons_append, List.cons_append, List.cons_eq_cons] at heq
      obtain ⟨rfl, heq⟩ := heq
      rw [heq] at hfound
      have hfind := (isSome_tag?_iff.1 (Option.isSome_of_eq_some hfound)).2
      cases hescaped : escapedChars cs with
      | nil =>
        rw [hescaped, List.nil_append] at heq
        rw [starts d (by rw [heq]; rfl)] at hd
        cases hd
      | cons e es =>
        rw [hescaped, List.cons_append, List.cons_eq_cons] at heq
        obtain ⟨rfl, heq⟩ := heq
        obtain ⟨fs, rfl, rfl⟩ := escapedChars_eq_cons hescaped hd
        rw [← heq, List.find?_append, find?_escapedChars] at hfind
        have hclosed : fs.find? isBracket = some ']' := by
          cases hfs : fs.find? isBracket with
          | none =>
            rw [hfs] at hfind
            exact absurd hfind closes
          | some b =>
            rw [hfs] at hfind
            exact hfind
        have := isSome_tag?_iff.2 ⟨hd, hclosed⟩
        rw [htag] at this
        cases this

/-! ## Tame parts -/

/-- Up to the last ones, the parts hold no tag that is not escaped. -/
inductive Tame (last : List Part) : List Part → Prop
  | done : Tame last last
  | plain (cs : List Char) {ps : List Part} : Tame last ps → Tame last (.plain cs :: ps)
  | escaped {n : Nat} (content : List Char) {ps : List Part} :
      n % 2 = 1 → Tame last ps → Tame last (.tag n content :: ps)

/-- The parts do not start with plain ones. -/
def StartsWithTag : List Part → Prop
  | .plain _ :: _ => False
  | _ => True

theorem Tame.addChar {last ps : List Part} (h : Tame last ps) (hlast : StartsWithTag last)
    (c : Char) : Tame last (addChar c ps) := by
  cases h with
  | done =>
    rcases last with _ | ⟨_ | _, _⟩
    · exact .plain _ .done
    · cases hlast
    · exact .plain _ .done
  | plain cs h => exact .plain _ h
  | escaped content hn h => exact .plain _ (.escaped content hn h)

theorem isBackslash_of_mem_backslashes {n : Nat} {c : Char} (h : c ∈ backslashes n) :
    isBackslash c = true := by
  rw [List.eq_of_mem_replicate h]
  rfl

theorem backslashes_succ (n : Nat) : backslashes (n + 1) = '\\' :: backslashes n :=
  List.replicate_succ

theorem tag?_dropWhile_backslashes (n : Nat) :
    tag? (('\\' :: backslashes n).dropWhile isBackslash) = none := by
  rw [← backslashes_succ, List.dropWhile_eq_nil_iff.2 fun c => isBackslash_of_mem_backslashes]
  rfl

theorem parts_backslashes_tag {content : List Char} (h : IsContent content) (n : Nat)
    (rest : List Char) :
    parts (backslashes n ++ ('[' :: content ++ ']' :: rest)) = .tag n content :: parts rest := by
  have all : ∀ c ∈ backslashes n, isBackslash c = true := fun c => isBackslash_of_mem_backslashes
  have tag : tag? ((backslashes n ++ ('[' :: content ++ ']' :: rest)).dropWhile isBackslash) =
      some (content, rest) := by
    rw [List.dropWhile_append_of_pos all, List.cons_append, List.dropWhile_cons_of_neg (by decide)]
    exact tag?_eq_some_iff.2 ⟨rfl, h⟩
  rw [parts_of_tag tag, List.takeWhile_append_of_pos all, List.cons_append,
    List.takeWhile_cons_of_neg (by decide), List.append_nil, backslashes, List.length_replicate]

/-- No character opens a bracket or is a backslash. -/
def hasNoMarks (cs : List Char) : Bool := cs.all fun c => c != '[' && c != '\\'

theorem hasNoMarks_nil : hasNoMarks [] = true := rfl

/-- Characters that open no bracket and escape none stay outside of tags. -/
theorem Tame.parts_append {last : List Part} {rest : List Char} (h : Tame last (parts rest))
    (hlast : StartsWithTag last) {cs : List Char} (hcs : hasNoMarks cs = true) :
    Tame last (parts (cs ++ rest)) := by
  induction cs with
  | nil => exact h
  | cons c cs ih =>
    rw [hasNoMarks, List.all_cons, Bool.and_eq_true, Bool.and_eq_true, bne_iff_ne, bne_iff_ne]
      at hcs
    rw [List.cons_append, parts_of_none]
    · exact (ih hcs.2).addChar hlast c
    · rw [List.dropWhile_cons_of_neg (by simpa [isBackslash] using hcs.1.2)]
      rw [Option.eq_none_iff_forall_ne_some]
      rintro ⟨content, tail⟩ hsome
      exact hcs.1.1 (List.cons_eq_cons.1 (tag?_eq_some_iff.1 hsome).1).1

/-- The characters of a tag, if there is one. -/
def tagChars : Option (List Char) → List Char
  | none => []
  | some content => '[' :: content ++ [']']

/-- The tag as a part behind some backslashes. -/
def tagParts (n : Nat) : Option (List Char) → List Part
  | none => []
  | some content => [.tag n content]

theorem startsWithTag_tagParts (n : Nat) (t : Option (List Char)) :
    StartsWithTag (tagParts n t) := by
  cases t <;> trivial

variable {t : Option (List Char)}

theorem tame_parts_backslashes (ht : ∀ content ∈ t, IsContent content) (n : Nat) :
    Tame (tagParts n t) (parts (backslashes n ++ tagChars t)) := by
  cases t with
  | some content =>
    rw [tagChars, parts_backslashes_tag (ht content rfl), parts_nil]
    exact .done
  | none =>
    rw [tagChars, List.append_nil]
    induction n with
    | zero =>
      rw [backslashes, List.replicate_zero, parts_nil]
      exact .done
    | succ n ih =>
      rw [backslashes_succ, parts_of_none (tag?_dropWhile_backslashes n)]
      exact ih.addChar trivial _

theorem eq_backslashes {cs : List Char} (h : cs.dropWhile isBackslash = []) :
    cs = backslashes cs.length :=
  List.eq_replicate_of_mem fun c hc => by
    simpa [isBackslash] using List.dropWhile_eq_nil_iff.1 h c hc

theorem escapedChars_backslashes (n : Nat) : escapedChars (backslashes n) = backslashes n := by
  induction n with
  | zero => exact escapedChars_nil
  | succ n ih =>
    rw [backslashes_succ, escapedChars_of_none (tag?_dropWhile_backslashes n), ih]

/-- In an escaped text with a tag behind it, no other tag is open. -/
theorem tame_parts_escapedChars (ht : ∀ content ∈ t, IsContent content) (cs : List Char) (k : Nat) :
    ∃ n, Tame (tagParts n t) (parts (escapedChars cs ++ (backslashes k ++ tagChars t))) := by
  induction cs using parts.induct with
  | case1 cs content rest h _ _ ih =>
    obtain ⟨n, ih⟩ := ih
    rw [escapedChars_of_tag h, List.append_assoc, List.cons_append, List.cons_append,
      List.append_assoc, List.cons_append, ← List.cons_append,
      parts_backslashes_tag (tag?_eq_some_iff.1 h).2]
    exact ⟨n, .escaped content (by omega) ih⟩
  | case2 =>
    rw [escapedChars_nil, List.nil_append]
    exact ⟨k, tame_parts_backslashes ht k⟩
  | case3 c cs h ih =>
    by_cases hall : (c :: cs).dropWhile isBackslash = []
    · rw [eq_backslashes hall, escapedChars_backslashes, ← List.append_assoc, backslashes,
        backslashes, List.replicate_append_replicate]
      exact ⟨_, tame_parts_backslashes ht _⟩
    · obtain ⟨n, ih⟩ := ih
      refine ⟨n, ?_⟩
      have none := tag?_escapedChars_append (u := backslashes k ++ tagChars t) h hall ?_ ?_
      · rw [escapedChars_of_none h, List.cons_append] at none ⊢
        rw [parts_of_none none]
        exact ih.addChar (startsWithTag_tagParts n t) c
      · intro d hd
        cases k with
        | zero => cases t <;> cases hd; decide
        | succ k => cases hd; decide
      · rw [find?_backslashes_append]
        cases t with
        | none => decide
        | some content => exact fun h => absurd (Option.some.inj h) (by decide)

/-! ## Showing tame parts -/

/-- Tame parts open and close no tag before the last ones. -/
theorem foldlM_step_of_tame {last ps : List Part} (h : Tame last ps) (st : Showing) :
    ∃ st' : Showing, st'.openTags = st.openTags ∧ st'.spans = st.spans ∧
      ps.foldlM Showing.step st = last.foldlM Showing.step st' := by
  induction h generalizing st with
  | done => exact ⟨st, rfl, rfl, rfl⟩
  | plain cs _ ih => exact ih (st.add cs)
  | @escaped n content ps hn _ ih =>
    obtain ⟨st', tags, spans, hst'⟩ := ih
      (Showing.add { st with shown := st.shown ++ backslashes (n / 2) } ('[' :: content ++ [']']))
    refine ⟨st', tags, spans, hst' ▸ ?_⟩
    simp only [List.foldlM_cons, Showing.step, if_pos hn]
    rfl

/-- The name of a color as it stands in tags. -/
structure IsColor (name : List Char) : Prop where
  opening : IsContent name
  closing : IsContent ('/' :: name)
  normal : Style.normalize name = .ok name
  enter : ∀ st : Showing, st.enter name = st.openTag name none
  leave : ∀ st : Showing, st.enter ('/' :: name) = st.closeTag name ('/' :: name)
  quiet : name.head? ≠ some '@'

theorem isColor_red : IsColor "red".toList where
  opening := isContent_cons (by decide) (by decide)
  closing := isContent_cons (by decide) (by decide)
  normal := by decide +kernel
  enter := fun _ => rfl
  leave := fun _ => rfl
  quiet := by decide

theorem isColor_yellow : IsColor "yellow".toList where
  opening := isContent_cons (by decide) (by decide)
  closing := isContent_cons (by decide) (by decide)
  normal := by decide +kernel
  enter := fun _ => rfl
  leave := fun _ => rfl
  quiet := by decide

/-- All tags, open or closed, are of one color. -/
structure Showing.Uses (st : Showing) (name : List Char) : Prop where
  openTags : ∀ t ∈ st.openTags, t.1 = ⟨name, none⟩
  spans : ∀ span ∈ st.spans, span.style = some name

variable {name : List Char}

/-- Texts of one color can be shown. -/
theorem Showing.Uses.lines {st : Showing} (h : st.Uses name) (hname : IsColor name)
    (width : Option Nat) : ∃ ls, st.done.lines width = .ok ls := by
  have sound : ∀ span ∈ st.done.spans, span.fault? = none := by
    intro span hspan
    rw [Showing.done, List.mem_mergeSort, List.mem_append, List.mem_map] at hspan
    have style : span.style = some name := by
      rcases hspan with ⟨t, ht, rfl⟩ | hspan
      · rw [Showing.span, h.openTags t (List.mem_reverse.1 ht)]
        rfl
      · exact h.spans span hspan
    rw [Span.fault?, style]
    simp [hname.normal]
  have none : st.done.fault? (ColumnLine.ofText width st.done.text) = none := by
    rw [Shown.fault?, List.findSome?_eq_none_iff]
    intro line _
    rw [List.findSome?_eq_none_iff]
    exact fun span hspan => sound span (List.mem_filter.1 hspan).1
  rw [Shown.lines]
  simp only [none]
  exact ⟨_, rfl⟩

theorem Showing.openTag_color (hname : IsColor name) (st : Showing) :
    st.openTag name none =
      .ok { st with openTags := (⟨name, none⟩, st.place) :: st.openTags } := by
  simp only [Showing.openTag, Showing.normalize, hname.normal]
  rfl

theorem Showing.closeTag_color (hname : IsColor name) (st : Showing) {t : Tag × Nat}
    {ts : List (Tag × Nat)} (htags : st.openTags = t :: ts) (ht : t.1 = ⟨name, none⟩)
    (content : List Char) :
    st.closeTag name content =
      .ok { st with openTags := ts, spans := st.span t :: st.spans } := by
  have event : t.1.isEvent = false := by
    rw [Tag.isEvent, ht]
    exact decide_eq_false hname.quiet
  have taken : takeTag name (t :: ts) = some (t, ts) := by
    rw [takeTag, ht, if_pos rfl]
  have normal : Showing.normalize name = .ok name := by
    rw [Showing.normalize, hname.normal]
    rfl
  obtain ⟨c, cs, rfl, -⟩ := hname.opening.starts
  simp only [Showing.closeTag, htags, normal, bind, Except.bind, taken, pure, Except.pure, event,
    Bool.false_and, Bool.false_eq_true, if_false]

theorem Showing.Uses.step_open {st : Showing} (h : st.Uses name) (hname : IsColor name) :
    ∃ st' : Showing, st.step (.tag 0 name) = .ok st' ∧ st'.Uses name ∧ st'.openTags ≠ [] := by
  have entered := (hname.enter _).trans
    (Showing.openTag_color hname { st with shown := st.shown ++ backslashes (0 / 2) })
  refine ⟨_, entered, ⟨?_, h.spans⟩, List.cons_ne_nil _ _⟩
  rw [List.forall_mem_cons]
  exact ⟨rfl, h.openTags⟩

/-- A tag of the color closes one that is open, or is escaped. -/
theorem Showing.Uses.step_close {st : Showing} (h : st.Uses name) (hname : IsColor name)
    (hopen : st.openTags ≠ []) (n : Nat) :
    ∃ st' : Showing, st.step (.tag n ('/' :: name)) = .ok st' ∧ st'.Uses name := by
  by_cases hn : n % 2 = 1
  · exact ⟨_, if_pos hn, ⟨h.openTags, h.spans⟩⟩
  · obtain ⟨t, ts, htags⟩ := List.exists_cons_of_ne_nil hopen
    obtain ⟨ht, hts⟩ := List.forall_mem_cons.1 (htags ▸ h.openTags)
    have left := (hname.leave _).trans (Showing.closeTag_color hname
      { st with shown := st.shown ++ backslashes (n / 2) } htags ht ('/' :: name))
    refine ⟨_, (if_neg hn).trans left, ⟨hts, ?_⟩⟩
    rw [List.forall_mem_cons]
    refine ⟨?_, h.spans⟩
    rw [Showing.span, ht]
    rfl

/-! ## Messages -/

theorem uses_empty (name : List Char) : Showing.Uses {} name where
  openTags := fun _ h => nomatch h
  spans := fun _ h => nomatch h

theorem Showing.Uses.of_eq {st st' : Showing} (h : st.Uses name) (tags : st'.openTags = st.openTags)
    (spans : st'.spans = st.spans) : st'.Uses name where
  openTags := tags ▸ h.openTags
  spans := spans ▸ h.spans

theorem lines_of_foldlM {markup : String} (hname : IsColor name) {st : Showing} (h : st.Uses name)
    (hst : (parts markup.toList).foldlM Showing.step {} = .ok st) :
    ∃ ls, Markup.lines markup = .ok ls := by
  obtain ⟨ls, hls⟩ := h.lines hname none
  rw [Markup.lines, shown, hst]
  refine ⟨textLines (String.ofList (Text.unlines ls)), ?_⟩
  simp only [Except.map, bind, Except.bind, hls]
  rfl

/-- Behind some characters a tag of the color is opened, if none is open. -/
theorem exists_opened (hname : IsColor name) {before : List Char}
    (hbefore : hasNoMarks before = true) (rest : List Char) :
    ∃ st : Showing, st.Uses name ∧ st.openTags ≠ [] ∧
      (parts (before ++ ('[' :: name ++ ']' :: rest))).foldlM Showing.step {} =
        (parts rest).foldlM Showing.step st := by
  have tag : parts ('[' :: name ++ ']' :: rest) = .tag 0 name :: parts rest :=
    parts_backslashes_tag hname.opening 0 rest
  have tame : Tame (.tag 0 name :: parts rest) (parts ('[' :: name ++ ']' :: rest)) :=
    tag ▸ .done
  obtain ⟨st, tags, spans, hst⟩ := foldlM_step_of_tame (tame.parts_append trivial hbefore) {}
  obtain ⟨st', hopen, uses, opened⟩ := ((uses_empty name).of_eq tags spans).step_open hname
  refine ⟨st', uses, opened, ?_⟩
  rw [hst, List.foldlM_cons, hopen]
  rfl

/-- A message with an escaped text between the tags of a color can be shown. -/
theorem lines_around (hname : IsColor name) {before : List Char}
    (hbefore : hasNoMarks before = true) (s : String) {front back : String}
    (hfront : front.toList = '[' :: name ++ ']' :: before)
    (hback : back.toList = '[' :: '/' :: name ++ [']']) :
    ∃ ls, Markup.lines (front ++ escape s ++ back) = .ok ls := by
  have hmarkup : (front ++ escape s ++ back).toList =
      '[' :: name ++ ']' :: (before ++ ((escape s).toList ++ ('[' :: '/' :: name ++ [']']))) := by
    rw [String.toList_append, String.toList_append, hfront, hback]
    simp
  obtain ⟨k, hk⟩ := toList_escape s
  obtain ⟨st, uses, opened, hst⟩ := exists_opened hname hasNoMarks_nil
    (before ++ ((escape s).toList ++ ('[' :: '/' :: name ++ [']'])))
  rw [List.nil_append, ← hmarkup] at hst
  obtain ⟨n, tame⟩ := tame_parts_escapedChars (t := some ('/' :: name))
    (by rintro _ ⟨⟩; exact hname.closing) s.toList k
  have tame := tame.parts_append (startsWithTag_tagParts n _) hbefore
  rw [← List.append_assoc (escapedChars _), ← hk] at tame
  obtain ⟨st', tags, spans, hst'⟩ := foldlM_step_of_tame tame st
  obtain ⟨last, hclose, uses⟩ := (uses.of_eq tags spans).step_close hname (tags ▸ opened) n
  refine lines_of_foldlM hname uses (hst.trans (hst'.trans ?_))
  rw [tagParts, List.foldlM_cons, hclose]
  rfl

/-- A message with a label in a color and an escaped text behind it can be shown. -/
theorem lines_label (hname : IsColor name) {before label gap : List Char}
    (hbefore : hasNoMarks before = true) (hlabel : hasNoMarks label = true)
    (hgap : hasNoMarks gap = true) (s : String) {front : String}
    (hfront : front.toList =
      before ++ ('[' :: name ++ ']' :: (label ++ ('[' :: '/' :: name ++ ']' :: gap)))) :
    ∃ ls, Markup.lines (front ++ escape s) = .ok ls := by
  have hmarkup : (front ++ escape s).toList = before ++ ('[' :: name ++ ']' ::
      (label ++ ('[' :: '/' :: name ++ ']' :: (gap ++ (escape s).toList)))) := by
    rw [String.toList_append, hfront]
    simp
  obtain ⟨k, hk⟩ := toList_escape s
  obtain ⟨st, uses, opened, hst⟩ := exists_opened hname hbefore
    (label ++ ('[' :: '/' :: name ++ ']' :: (gap ++ (escape s).toList)))
  rw [← hmarkup] at hst
  have tag : parts ('[' :: '/' :: name ++ ']' :: (gap ++ (escape s).toList)) =
      .tag 0 ('/' :: name) :: parts (gap ++ (escape s).toList) :=
    parts_backslashes_tag hname.closing 0 _
  have labelled : Tame (.tag 0 ('/' :: name) :: parts (gap ++ (escape s).toList))
      (parts ('[' :: '/' :: name ++ ']' :: (gap ++ (escape s).toList))) := tag ▸ .done
  obtain ⟨st', tags, spans, hst'⟩ :=
    foldlM_step_of_tame (labelled.parts_append trivial hlabel) st
  obtain ⟨closed, hclose, uses⟩ := (uses.of_eq tags spans).step_close hname (tags ▸ opened) 0
  obtain ⟨n, tame⟩ := tame_parts_escapedChars (t := none) (by rintro _ ⟨⟩) s.toList k
  have tame := tame.parts_append (startsWithTag_tagParts n _) hgap
  rw [tagChars, List.append_nil, ← hk] at tame
  obtain ⟨last, tags, spans, hlast⟩ := foldlM_step_of_tame tame closed
  refine lines_of_foldlM hname (uses.of_eq tags spans) (hst.trans (hst'.trans ?_))
  rw [List.foldlM_cons, hclose]
  exact hlast

end SdlPhp.Markup
