import SdlPhp.Proofs.Naming.Characters
import SdlPhp.Proofs.Sdl.Names

/-!
# Texts of type references

A type reference can be read from a text exactly if the tokens of the text are those of the reference
and no non-null modifier stands on another one (`parseTypeRef_eq_ok_iff`); what is skipped between
the tokens does not matter. The text of a reference has its tokens (`reads_text`). So a reference of
this form, with a name in it, is read back from its text, every reference that is read from any text
has this form, and no two of them have one text (`typeRef_read_back`).
-/

namespace SdlPhp

open Attempt Sdl

namespace TypeRef

/-- The tokens of the reference in the schema language. -/
def tokens : TypeRef → List Token
  | named name => [.name name]
  | list t => .punct .bracketL :: (t.tokens ++ [.punct .bracketR])
  | nonNull t => t.tokens ++ [.punct .bang]

theorem innermost_mem_tokens (t : TypeRef) : .name t.innermost ∈ t.tokens := by
  induction t with
  | named name => exact List.mem_singleton_self _
  | list t ih => exact List.mem_cons_of_mem _ (List.mem_append_left _ ih)
  | nonNull t ih => exact List.mem_append_left _ ih

/-- The number of list modifiers. -/
def lists : TypeRef → Nat
  | named _ => 0
  | list t => t.lists + 1
  | nonNull t => t.lists

/-- The innermost name is one, and no non-null modifier stands on another one. -/
structure IsProper (t : TypeRef) : Prop where
  named : Named t.innermost
  writable : t.isWritable = true

theorem tokens_ne_nil (t : TypeRef) : t.tokens ≠ [] := by cases t <;> simp [tokens]

theorem lists_lt_length_tokens (t : TypeRef) : t.lists < t.tokens.length := by
  induction t with
  | named name => exact Nat.one_pos
  | list t ih =>
    simp only [lists, tokens, List.length_cons, List.length_append, List.length_nil]
    omega
  | nonNull t ih =>
    simp only [lists, tokens, List.length_append]
    omega

end TypeRef

namespace Sdl

/-! ## Sequences of tokens -/

/-- The sequence does not start with a fault. -/
def Tokens.IsSound : Tokens → Prop
  | broken _ => False
  | _ => True

/-- A sequence starts with tokens, behind each of which it can be read further, and this is what is
left of it. -/
inductive Reads : Tokens → List Token → Tokens → Prop
  | nil (ts : Tokens) : Reads ts [] ts
  | cons {t : Token} {text : List Char} {ts last : Tokens} {xs : List Token} (sound : ts.IsSound)
      (rest : Reads ts xs last) : Reads (.more t text ts) (t :: xs) last

section Reads

variable {ts last : Tokens} {t : Token} {xs ys : List Token}

theorem reads_nil_iff : Reads ts [] last ↔ last = ts := by
  constructor
  · rintro ⟨⟩
    rfl
  · rintro rfl
    exact .nil _

theorem reads_cons_iff :
    Reads ts (t :: xs) last ↔ ∃ mid, Reads ts [t] mid ∧ Reads mid xs last := by
  constructor
  · rintro (_ | ⟨hsound, hrest⟩)
    exact ⟨_, .cons hsound (.nil _), hrest⟩
  · rintro ⟨mid, _ | ⟨hsound, ⟨⟩⟩, hrest⟩
    exact .cons hsound hrest

theorem reads_append_iff :
    Reads ts (xs ++ ys) last ↔ ∃ mid, Reads ts xs mid ∧ Reads mid ys last := by
  induction xs generalizing ts with
  | nil => simp [reads_nil_iff]
  | cons x xs ih =>
    rw [List.cons_append, reads_cons_iff]
    constructor
    · rintro ⟨mid, hx, h⟩
      obtain ⟨mid', hxs, hys⟩ := ih.1 h
      exact ⟨mid', reads_cons_iff.2 ⟨mid, hx, hxs⟩, hys⟩
    · rintro ⟨mid', h, hys⟩
      obtain ⟨mid, hx, hxs⟩ := reads_cons_iff.1 h
      exact ⟨mid, hx, ih.2 ⟨mid', hxs, hys⟩⟩

theorem Reads.head?_eq (h : Reads ts xs last) (hne : xs ≠ []) : ts.head? = xs.head? := by
  cases h with
  | nil => exact absurd rfl hne
  | cons => rfl

theorem Reads.isSound (h : Reads ts xs last) (hne : xs ≠ []) : ts.IsSound ∧ last.IsSound := by
  induction h with
  | nil => exact absurd rfl hne
  | cons hsound hrest ih =>
    refine ⟨trivial, ?_⟩
    cases hrest with
    | nil => exact hsound
    | cons => exact (ih (List.cons_ne_nil _ _)).2

theorem Reads.named (h : Reads ts xs last) (hts : ts.Named) : ∀ x ∈ xs, x.Named := by
  induction h with
  | nil => exact List.forall_mem_nil _
  | cons _ _ ih => exact List.forall_mem_cons.2 ⟨hts.1, ih hts.2⟩

theorem Reads.length_eq (h : Reads ts xs last) : ts.length = xs.length + last.length := by
  induction h with
  | nil => exact (Nat.zero_add _).symm
  | cons _ _ ih => rw [Tokens.length, ih, List.length_cons, Nat.add_right_comm]

end Reads

/-! ## Parsing -/

namespace Parser

section Steps

variable {α β : Type} {p : Parser α} {f : α → Parser β} {ts rest : Tokens}

theorem run_bind_eq_ok {b : β} :
    (p >>= f) ts = .ok (b, rest) ↔ ∃ a mid, p ts = .ok (a, mid) ∧ f a mid = .ok (b, rest) := by
  constructor
  · intro h
    obtain ⟨⟨a, mid⟩, ha, hb⟩ := bind_eq_ok.1 h
    exact ⟨a, mid, ha, hb⟩
  · rintro ⟨a, mid, ha, hb⟩
    exact bind_eq_ok.2 ⟨(a, mid), ha, hb⟩

theorem run_pure_eq_ok {a b : α} :
    (pure a : Parser α) ts = .ok (b, rest) ↔ b = a ∧ rest = ts := by
  constructor
  · rintro ⟨⟩
    exact ⟨rfl, rfl⟩
  · rintro ⟨rfl, rfl⟩
    rfl

theorem sound_eq_ok_iff : sound ts = .ok rest ↔ ts.IsSound ∧ rest = ts := by
  cases ts with
  | done => simp [sound, Tokens.IsSound, eq_comm]
  | broken fault => simp [sound, Tokens.IsSound]
  | more t text ts => simp [sound, Tokens.IsSound, eq_comm]

theorem advance_eq_ok_iff {t : Token} {text : List Char} :
    advance (.more t text ts) = .ok ((), rest) ↔ Reads (.more t text ts) [t] rest := by
  rw [advance, map_eq_ok]
  constructor
  · rintro ⟨_, hsound, ⟨⟩⟩
    obtain ⟨hsound, rfl⟩ := sound_eq_ok_iff.1 hsound
    exact .cons hsound (.nil _)
  · rintro (_ | ⟨hsound, ⟨⟩⟩)
    exact ⟨_, sound_eq_ok_iff.2 ⟨hsound, rfl⟩, rfl⟩

theorem accept_of_head {q : Punct} (h : ts.head? ≠ some (.punct q)) :
    accept q ts = .ok (false, ts) := by
  have hfalse : (ts.head? == some (.punct q)) = false := beq_eq_false_iff_ne.2 h
  change (if (ts.head? == some (.punct q)) = true then _ else _ : Parser Bool) ts = _
  rw [hfalse]
  rfl

theorem accept_more_eq_ok_iff {q : Punct} {text : List Char} {b : Bool} :
    accept q (.more (.punct q) text ts) = .ok (b, rest) ↔
      b = true ∧ Reads (.more (.punct q) text ts) [.punct q] rest := by
  have htrue : (some (Token.punct q) == some (.punct q)) = true := beq_self_eq_true _
  change (if (some (Token.punct q) == some (.punct q)) = true then _ else _ : Parser Bool) _ = _ ↔ _
  rw [htrue, if_pos rfl, run_bind_eq_ok]
  constructor
  · rintro ⟨⟨⟩, mid, hmid, ⟨⟩⟩
    exact ⟨rfl, advance_eq_ok_iff.1 hmid⟩
  · rintro ⟨rfl, h⟩
    exact ⟨(), rest, advance_eq_ok_iff.2 h, rfl⟩

/-- The punctuator is taken if it comes next and the text can be read further. -/
theorem accept_eq_ok_iff {q : Punct} {b : Bool} :
    accept q ts = .ok (b, rest) ↔
      if b then Reads ts [.punct q] rest else ts.head? ≠ some (.punct q) ∧ rest = ts := by
  by_cases h : ts.head? = some (.punct q)
  · cases ts with
    | done => cases h
    | broken fault => cases h
    | more t text ts =>
      cases h
      rw [accept_more_eq_ok_iff]
      cases b <;> simp [Tokens.head?]
  · rw [accept_of_head h]
    cases b with
    | false => simp [h, eq_comm]
    | true =>
      refine iff_of_false (by simp) fun hread => h ?_
      exact hread.head?_eq (List.cons_ne_nil _ _)

theorem expect_eq_ok_iff {q : Punct} : expect q ts = .ok ((), rest) ↔ Reads ts [.punct q] rest := by
  rw [expect, run_bind_eq_ok]
  constructor
  · rintro ⟨b, mid, hb, h⟩
    cases b with
    | false => cases h
    | true =>
      cases h
      exact accept_eq_ok_iff.1 hb
  · exact fun h => ⟨true, rest, accept_eq_ok_iff.2 h, rfl⟩

theorem name_eq_ok_iff {s : String} : name ts = .ok (s, rest) ↔ Reads ts [.name s] rest := by
  rw [name, run_bind_eq_ok]
  constructor
  · rintro ⟨_, _, ⟨⟩, h⟩
    cases ts with
    | done => cases h
    | broken fault => cases h
    | more t text ts =>
      cases t with
      | name n =>
        obtain ⟨⟨⟩, mid, hmid, h⟩ := run_bind_eq_ok.1 h
        obtain ⟨rfl, rfl⟩ := run_pure_eq_ok.1 h
        exact advance_eq_ok_iff.1 hmid
      | _ => cases h
  · intro h
    have hstep := h
    obtain _ | ⟨-, -⟩ := h
    exact ⟨_, _, rfl, run_bind_eq_ok.2 ⟨(), rest, advance_eq_ok_iff.2 hstep, rfl⟩⟩

theorem endOfText_eq_ok_iff : endOfText ts = .ok ((), rest) ↔ ts.head? = none ∧ rest = ts := by
  cases ts with
  | more t text ts => exact iff_of_false (fun h => nomatch h) (fun h => nomatch h.1)
  | done =>
    constructor
    · rintro ⟨⟩
      exact ⟨rfl, rfl⟩
    · rintro ⟨-, rfl⟩
      rfl
  | broken fault =>
    constructor
    · rintro ⟨⟩
      exact ⟨rfl, rfl⟩
    · rintro ⟨-, rfl⟩
      rfl

end Steps

section TypeRefs

variable {ts rest : Tokens} {t : TypeRef} {fuel : Nat}

/-- A type reference of at most this many list modifiers, but for a final non-null modifier. -/
def nullableWithin (fuel : Nat) : Parser TypeRef := do
  if ← accept .bracketL then
    let t ← typeRefWithin fuel
    expect .bracketR
    return .list t
  else return .named (← name)

theorem typeRefWithin_succ (fuel : Nat) : typeRefWithin (fuel + 1) = (do
    let inner ← nullableWithin fuel
    if ← accept .bang then return .nonNull inner else return inner) := rfl

theorem nullableWithin_eq_ok_iff
    (ih : ∀ {ts rest t}, typeRefWithin fuel ts = .ok (t, rest) ↔
      t.isWritable = true ∧ t.lists < fuel ∧ Reads ts t.tokens rest ∧
        (t.isNonNull = false → rest.head? ≠ some (.punct .bang))) :
    nullableWithin fuel ts = .ok (t, rest) ↔
      t.isNonNull = false ∧ t.isWritable = true ∧ t.lists < fuel + 1 ∧ Reads ts t.tokens rest := by
  rw [nullableWithin, run_bind_eq_ok]
  constructor
  · rintro ⟨opened, mid, hopened, h⟩
    rw [accept_eq_ok_iff] at hopened
    cases opened with
    | true =>
      obtain ⟨u, mid', hu, h⟩ := run_bind_eq_ok.1 h
      obtain ⟨⟨⟩, last, hclosed, h⟩ := run_bind_eq_ok.1 h
      obtain ⟨rfl, rfl⟩ := run_pure_eq_ok.1 h
      obtain ⟨hwritable, hlists, hread, -⟩ := ih.1 hu
      refine ⟨rfl, hwritable, Nat.succ_lt_succ hlists, reads_cons_iff.2 ⟨mid, hopened, ?_⟩⟩
      exact reads_append_iff.2 ⟨mid', hread, expect_eq_ok_iff.1 hclosed⟩
    | false =>
      obtain ⟨-, rfl⟩ := hopened
      obtain ⟨s, last, hs, h⟩ := run_bind_eq_ok.1 h
      obtain ⟨rfl, rfl⟩ := run_pure_eq_ok.1 h
      exact ⟨rfl, rfl, Nat.succ_pos fuel, name_eq_ok_iff.1 hs⟩
  · rintro ⟨hnullable, hwritable, hlists, hread⟩
    cases t with
    | named s =>
      have hhead : ts.head? ≠ some (.punct .bracketL) := by
        rw [hread.head?_eq (List.cons_ne_nil _ _)]
        exact fun h => nomatch h
      refine ⟨false, ts, accept_of_head hhead, run_bind_eq_ok.2 ⟨s, rest, ?_, rfl⟩⟩
      exact name_eq_ok_iff.2 hread
    | list u =>
      -- behind the element comes the closing bracket, so that no `!` is left to be taken
      obtain ⟨mid, hopened, hread⟩ := reads_cons_iff.1 hread
      obtain ⟨mid', hu, hclosed⟩ := reads_append_iff.1 hread
      have hend : mid'.head? ≠ some (.punct .bang) := by
        rw [hclosed.head?_eq (List.cons_ne_nil _ _)]
        exact fun h => nomatch h
      refine ⟨true, mid, accept_eq_ok_iff.2 hopened, run_bind_eq_ok.2 ⟨u, mid', ?_, ?_⟩⟩
      · exact ih.2 ⟨hwritable, Nat.lt_of_succ_lt_succ hlists, hu, fun _ => hend⟩
      · exact run_bind_eq_ok.2 ⟨(), rest, expect_eq_ok_iff.2 hclosed, rfl⟩
    | nonNull u => cases hnullable

/-- A reference is parsed from its tokens. It takes as many of them as it can, so that behind one
that is nullable there comes no `!`. -/
theorem typeRefWithin_eq_ok_iff :
    typeRefWithin fuel ts = .ok (t, rest) ↔
      t.isWritable = true ∧ t.lists < fuel ∧ Reads ts t.tokens rest ∧
        (t.isNonNull = false → rest.head? ≠ some (.punct .bang)) := by
  induction fuel generalizing ts rest t with
  | zero => exact iff_of_false (fun h => nomatch h) fun h => absurd h.2.1 (Nat.not_lt_zero _)
  | succ fuel ih =>
    rw [typeRefWithin_succ, run_bind_eq_ok]
    constructor
    · rintro ⟨inner, mid, hinner, h⟩
      obtain ⟨hnullable, hwritable, hlists, hread⟩ := (nullableWithin_eq_ok_iff ih).1 hinner
      obtain ⟨marked, last, hmarked, hdone⟩ := run_bind_eq_ok.1 h
      rw [accept_eq_ok_iff] at hmarked
      cases marked with
      | true =>
        obtain ⟨rfl, rfl⟩ := run_pure_eq_ok.1 hdone
        refine ⟨?_, hlists, reads_append_iff.2 ⟨mid, hread, hmarked⟩, fun h => nomatch h⟩
        rw [TypeRef.isWritable, hnullable, hwritable]
        rfl
      | false =>
        obtain ⟨hend, rfl⟩ := hmarked
        obtain ⟨rfl, rfl⟩ := run_pure_eq_ok.1 hdone
        exact ⟨hwritable, hlists, hread, fun _ => hend⟩
    · rintro ⟨hwritable, hlists, hread, hend⟩
      cases hmarked : t.isNonNull with
      | false =>
        refine ⟨t, rest, (nullableWithin_eq_ok_iff ih).2 ⟨hmarked, hwritable, hlists, hread⟩, ?_⟩
        exact run_bind_eq_ok.2 ⟨false, rest, accept_of_head (hend hmarked), rfl⟩
      | true =>
        cases t with
        | named s => cases hmarked
        | list u => cases hmarked
        | nonNull u =>
          rw [TypeRef.isWritable, Bool.and_eq_true, Bool.not_eq_true'] at hwritable
          obtain ⟨mid, hu, hbang⟩ := reads_append_iff.1 hread
          refine ⟨u, mid, ?_, run_bind_eq_ok.2 ⟨true, rest, accept_eq_ok_iff.2 hbang, rfl⟩⟩
          exact (nullableWithin_eq_ok_iff ih).2 ⟨hwritable.1, hwritable.2, hlists, hu⟩

theorem typeRef_eq_ok_iff :
    typeRef ts = .ok (t, rest) ↔
      t.isWritable = true ∧ Reads ts t.tokens rest ∧
        (t.isNonNull = false → rest.head? ≠ some (.punct .bang)) := by
  change typeRefWithin (ts.length + 1) ts = _ ↔ _
  rw [typeRefWithin_eq_ok_iff]
  constructor
  · exact fun ⟨hwritable, _, hread, hend⟩ => ⟨hwritable, hread, hend⟩
  · rintro ⟨hwritable, hread, hend⟩
    have hlength := hread.length_eq
    have hlists := t.lists_lt_length_tokens
    exact ⟨hwritable, by omega, hread, hend⟩

end TypeRefs

end Parser

/-- A text writes a reference if its tokens to its end are those of the reference. -/
theorem parseTypeRef_eq_ok_iff {source : String} {t : TypeRef} :
    parseTypeRef source = .ok t ↔ t.isWritable = true ∧ Reads (tokens source) t.tokens .done := by
  rw [parseTypeRef, mapError_eq_ok, Parser.run, bind_eq_ok]
  constructor
  · rintro ⟨ts, hts, h⟩
    obtain ⟨-, rfl⟩ := Parser.sound_eq_ok_iff.1 hts
    obtain ⟨⟨u, last⟩, hu, h⟩ := bind_eq_ok.1 h
    cases pure_eq_ok.1 h
    obtain ⟨u, mid, hu, h⟩ := Parser.run_bind_eq_ok.1 hu
    obtain ⟨⟨⟩, mid', hend, h⟩ := Parser.run_bind_eq_ok.1 h
    obtain ⟨rfl, rfl⟩ := Parser.run_pure_eq_ok.1 h
    obtain ⟨hhead, rfl⟩ := Parser.endOfText_eq_ok_iff.1 hend
    obtain ⟨hwritable, hread, -⟩ := Parser.typeRef_eq_ok_iff.1 hu
    refine ⟨hwritable, ?_⟩
    have hsound := (hread.isSound (TypeRef.tokens_ne_nil _)).2
    cases last with
    | done => exact hread
    | broken fault => exact absurd hsound id
    | more t text ts => cases hhead
  · rintro ⟨hwritable, hread⟩
    have hsound := (hread.isSound t.tokens_ne_nil).1
    refine ⟨_, Parser.sound_eq_ok_iff.2 ⟨hsound, rfl⟩, ?_⟩
    refine bind_eq_ok.2 ⟨(t, .done), Parser.run_bind_eq_ok.2 ⟨t, .done, ?_, ?_⟩, rfl⟩
    · exact Parser.typeRef_eq_ok_iff.2 ⟨hwritable, hread, fun _ h => nomatch h⟩
    · exact Parser.run_bind_eq_ok.2 ⟨(), .done, rfl, rfl⟩

/-! ## Texts -/

theorem skipIgnored_of_not_isIgnored {c : Char} (hc : isIgnored c = false) (hcomment : c ≠ '#')
    (cs : List Char) : skipIgnored false (c :: cs) = c :: cs := by
  cases cs with
  | nil => simp [skipIgnored, hc, hcomment]
  | cons d cs => simp [skipIgnored, hc, hcomment]

theorem tokensFrom_nil (fuel : Nat) : tokensFrom fuel [] = .done := by cases fuel <;> rfl

theorem tokensFrom_punct {c : Char} {p : Punct} (hc : isIgnored c = false) (hcomment : c ≠ '#')
    (hp : punctOf? c = some p) (fuel : Nat) (cs : List Char) :
    tokensFrom (fuel + 1) (c :: cs) = .more (.punct p) (c :: cs) (tokensFrom fuel cs) := by
  rw [tokensFrom, skipIgnored_of_not_isIgnored hc hcomment]
  simp [lexToken, hp]

theorem takeWhile_isNameChar {cs tail : List Char} (hcs : ∀ c ∈ cs, isNameChar c = true)
    (htail : ∀ c ∈ tail.head?, isNameChar c = false) :
    (cs ++ tail).takeWhile isNameChar = cs ∧ (cs ++ tail).dropWhile isNameChar = tail := by
  rw [List.takeWhile_append_of_pos hcs, List.dropWhile_append_of_pos hcs]
  cases tail with
  | nil => simp
  | cons c tail => simp [htail c rfl]

/-- A name is read as far as its characters go. -/
theorem tokensFrom_name {s : String} (hs : Named s) {tail : List Char}
    (htail : ∀ c ∈ tail.head?, isNameChar c = false) (fuel : Nat) :
    tokensFrom (fuel + 1) (s.toList ++ tail) =
      .more (.name s) (s.toList ++ tail) (tokensFrom fuel tail) := by
  have hchars := isNameChar_of_mem hs
  have hstart := (named_iff hchars).1 hs
  cases hc : s.toList with
  | nil => simp [hc] at hstart
  | cons c cs =>
    rw [hc, List.forall_mem_cons] at hchars
    rw [hc, List.head?_cons, Option.any_some] at hstart
    have hplain : isNameStart c = true → isIgnored c = false ∧ c ≠ '#' ∧ punctOf? c = none ∧
        (c.isDigit || c = '-') = false :=
      forall_ascii (p := fun c => isNameStart c = true → isIgnored c = false ∧ c ≠ '#' ∧
        punctOf? c = none ∧ (c.isDigit || c = '-') = false)
        (by decide +kernel) (lt_of_isNameChar hchars.1)
    obtain ⟨hignored, hcomment, hpunct, hnumber⟩ := hplain hstart
    obtain ⟨htake, hdrop⟩ := takeWhile_isNameChar hchars.2 htail
    have hlex : lexToken c (cs ++ tail) = .ok (.name s, tail) := by
      unfold lexToken
      simp only [hpunct, hnumber, hstart, htake, hdrop, Bool.false_eq_true, if_false, if_true]
      rw [← hc, String.ofList_toList]
    rw [List.cons_append, tokensFrom, skipIgnored_of_not_isIgnored hignored hcomment]
    simp only [hlex]

/-- The text of a reference is read as its tokens, whatever follows that is no character of a
name. -/
theorem reads_text {t : TypeRef} (hname : Named t.innermost) {tail : List Char}
    (htail : ∀ c ∈ tail.head?, isNameChar c = false) {fuel : Nat}
    (hsound : (tokensFrom fuel tail).IsSound) :
    Reads (tokensFrom (t.tokens.length + fuel) (t.text.toList ++ tail)) t.tokens
      (tokensFrom fuel tail) := by
  -- what follows the inner reference is a punctuator, so that its name ends there
  induction t generalizing tail fuel with
  | named s =>
    rw [TypeRef.tokens, List.length_singleton, Nat.add_comm, TypeRef.text,
      tokensFrom_name (s := s) hname htail]
    exact .cons hsound (.nil _)
  | list t ih =>
    have hclose := tokensFrom_punct (c := ']') rfl (by decide) rfl fuel tail
    have hread := @ih hname (']' :: tail) (by rintro _ ⟨⟩; rfl) (fuel + 1) (by rw [hclose]; trivial)
    have hopen := tokensFrom_punct (c := '[') rfl (by decide) rfl
      (t.tokens.length + (fuel + 1)) (t.text.toList ++ ']' :: tail)
    have hlength : (TypeRef.list t).tokens.length + fuel = t.tokens.length + (fuel + 1) + 1 := by
      simp only [TypeRef.tokens, List.length_cons, List.length_append, List.length_nil]
      omega
    have htext : (TypeRef.list t).text.toList ++ tail =
        '[' :: (t.text.toList ++ ']' :: tail) := by
      simp [TypeRef.text, String.toList_append]
    rw [hlength, htext, hopen, TypeRef.tokens]
    refine .cons (hread.isSound t.tokens_ne_nil).1 (reads_append_iff.2 ⟨_, hread, ?_⟩)
    rw [hclose]
    exact .cons hsound (.nil _)
  | nonNull t ih =>
    have hbang := tokensFrom_punct (c := '!') rfl (by decide) rfl fuel tail
    have hread := @ih hname ('!' :: tail) (by rintro _ ⟨⟩; rfl) (fuel + 1) (by rw [hbang]; trivial)
    have hlength : (TypeRef.nonNull t).tokens.length + fuel = t.tokens.length + (fuel + 1) := by
      simp only [TypeRef.tokens, List.length_cons, List.length_append, List.length_nil]
      omega
    have htext : (TypeRef.nonNull t).text.toList ++ tail = t.text.toList ++ '!' :: tail := by
      simp [TypeRef.text, String.toList_append]
    rw [hlength, htext, TypeRef.tokens]
    refine reads_append_iff.2 ⟨_, hread, ?_⟩
    rw [hbang]
    exact .cons hsound (.nil _)

theorem length_tokens_le_text {t : TypeRef} (hname : Named t.innermost) :
    t.tokens.length ≤ t.text.toList.length := by
  induction t with
  | named s =>
    cases hs : s.toList with
    | nil => simp [Named, TypeRef.innermost, hs, isName] at hname
    | cons c cs => simp [TypeRef.tokens, TypeRef.text, hs]
  | list t ih =>
    have hlength := ih hname
    simp only [TypeRef.tokens, TypeRef.text, String.toList_append, List.length_append,
      List.length_cons, List.length_nil]
    have hopen : "[".toList.length = 1 := rfl
    have hclose : "]".toList.length = 1 := rfl
    omega
  | nonNull t ih =>
    have hlength := ih hname
    simp only [TypeRef.tokens, TypeRef.text, String.toList_append, List.length_append,
      List.length_cons, List.length_nil]
    have hbang : "!".toList.length = 1 := rfl
    omega

theorem reads_tokens_text {t : TypeRef} (hname : Named t.innermost) :
    Reads (tokens t.text) t.tokens .done := by
  obtain ⟨fuel, hfuel⟩ := Nat.exists_eq_add_of_le
    (Nat.le_succ_of_le (length_tokens_le_text hname))
  have hread : Reads (tokensFrom (t.tokens.length + fuel) (t.text.toList ++ [])) t.tokens
      (tokensFrom fuel []) :=
    reads_text hname (by rintro _ ⟨⟩) (by rw [tokensFrom_nil]; trivial)
  rwa [List.append_nil, tokensFrom_nil, ← hfuel] at hread

/-! ## Reading back -/

/-- What is read from any text is proper. -/
theorem parseTypeRef_isProper {source : String} {t : TypeRef} (h : parseTypeRef source = .ok t) :
    t.IsProper := by
  obtain ⟨hwritable, hread⟩ := parseTypeRef_eq_ok_iff.1 h
  exact ⟨hread.named (tokens_named source) _ t.innermost_mem_tokens, hwritable⟩

theorem parseTypeRef_text {t : TypeRef} (h : t.IsProper) : parseTypeRef t.text = .ok t :=
  parseTypeRef_eq_ok_iff.2 ⟨h.writable, reads_tokens_text h.named⟩

/-- A proper reference is read back from its text. What is read from any text is proper, and so it
is read back in turn; and proper references that differ have texts that differ. -/
theorem typeRef_read_back :
    (∀ t : TypeRef, t.IsProper → parseTypeRef t.text = .ok t) ∧
      (∀ source t, parseTypeRef source = .ok t → t.IsProper ∧ parseTypeRef t.text = .ok t) ∧
      (∀ t u : TypeRef, t.IsProper → u.IsProper → t ≠ u → t.text ≠ u.text) := by
  refine ⟨fun t => parseTypeRef_text, fun source t h => ?_, fun t u ht hu hne htext => hne ?_⟩
  · have hproper := parseTypeRef_isProper h
    exact ⟨hproper, parseTypeRef_text hproper⟩
  · have hread := parseTypeRef_text ht
    rw [htext, parseTypeRef_text hu] at hread
    exact (Except.ok.inj hread).symm

/-- A reference of a text with a comment, blanks and commas. -/
theorem typeRef_read_back_pairs :
    let source := "# pairs\n[ , [ Int ! ] ,! ]"
    let t : TypeRef := .list (.nonNull (.list (.nonNull (.named "Int"))))
    parseTypeRef source = .ok t ∧ t.text = "[[Int!]!]" ∧ parseTypeRef t.text = .ok t ∧
      t.text ≠ (TypeRef.list (.list (.named "Int"))).text := by
  intro source t
  obtain ⟨hback, hread, hdistinct⟩ := typeRef_read_back
  have hsource : parseTypeRef source = .ok t := by
    have hparsed : (parseTypeRef source).toOption.map id = some t := by decide +kernel
    obtain ⟨u, hu, rfl⟩ := exists_ok_of_map_toOption hparsed
    exact hu
  have hother : (TypeRef.list (.list (.named "Int"))).IsProper := ⟨rfl, rfl⟩
  obtain ⟨ht, htext⟩ := hread source t hsource
  exact ⟨hsource, by decide, htext, hdistinct t _ ht hother (by decide)⟩

end Sdl

end SdlPhp
