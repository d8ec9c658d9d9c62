import Mathlib.Data.List.TakeWhile
import SdlPhp.Json.Reader
import SdlPhp.Json.Writer
import SdlPhp.Proofs.Attempt
import SdlPhp.Proofs.Text.Whole

/-!
# Texts and whole numbers read back

A text is read back character by character from its escapes, and a whole number from its digits,
whatever follows the text, and whatever but a digit, a point or an exponent follows the number. Main
statements: `readText_writeText` and `readAtom_intText`.
-/

namespace SdlPhp.Json

open Attempt

/-! ## Texts -/

section Texts

variable {opening : List Char} {fuel : Nat}

theorem hexNumber?_hexDigits {n : Nat} (h : n < 32) :
    Text.hexNumber? (Text.hexDigits 4 n) = some n := by
  have : ∀ n < 32, Text.hexNumber? (Text.hexDigits 4 n) = some n := by decide
  exact this n h

theorem length_hexDigits (width n : Nat) : (Text.hexDigits width n).length = width := by
  induction width generalizing n with
  | zero => rfl
  | succ width ih => rw [Text.hexDigits, List.length_append, ih, List.length_singleton]

/-- The escape of a control character stands for it. -/
theorem unicodeEscape_hexDigits {c d : Char} (hc : c.toNat < 32) (fromU rest : List Char) :
    unicodeEscape fromU (Text.hexDigits 4 c.toNat ++ d :: rest) =
      .ok (.char c, d :: rest) := by
  have drop : (Text.hexDigits 4 c.toNat ++ d :: rest).drop 4 = d :: rest :=
    List.drop_left' (length_hexDigits 4 c.toNat)
  have take : (Text.hexDigits 4 c.toNat ++ d :: rest).take 4 = Text.hexDigits 4 c.toNat :=
    List.take_left' (length_hexDigits 4 c.toNat)
  have high : Text.isHighSurrogate c.toNat = false := by
    simp only [Text.isHighSurrogate, Bool.and_eq_false_iff, decide_eq_false_iff_not]
    omega
  have low : Text.isLowSurrogate c.toNat = false := by
    simp only [Text.isLowSurrogate, Bool.and_eq_false_iff, decide_eq_false_iff_not]
    omega
  have unit : Text.CodePoint.ofUnit c.toNat = .char c := by
    simp only [Text.CodePoint.ofUnit, high, low, Bool.or_self, Bool.false_eq_true, if_false,
      Char.ofNat_toNat]
  simp only [unicodeEscape, drop, take, hexNumber?_hexDigits hc, List.isEmpty_cons,
    Bool.false_eq_true, if_false, high, Bool.false_and, unit]
  split <;> rfl

/-- One escaped character is read. -/
theorem readChars_escapeChar (c d : Char) (rest : List Char) :
    readChars opening (fuel + 1) (escapeChar c ++ d :: rest) =
      (readChars opening fuel (d :: rest)).map fun r => (c :: r.1, r.2) := by
  have bound (f : List Char × List Char → List Char × List Char) :
      (readChars opening fuel (d :: rest) >>= fun r => pure (f r)) =
        (readChars opening fuel (d :: rest)).map f := by
    cases readChars opening fuel (d :: rest) <;> rfl
  rw [escapeChar]
  split_ifs with h1 h2 h3 h4 h5 h6 h7 hcontrol
  · subst h1
    exact bound fun r => ('"' :: r.1, r.2)
  · subst h2
    exact bound fun r => ('\\' :: r.1, r.2)
  · subst h3
    exact bound fun r => ('\n' :: r.1, r.2)
  · subst h4
    exact bound fun r => ('\r' :: r.1, r.2)
  · subst h5
    exact bound fun r => ('\t' :: r.1, r.2)
  · obtain rfl : c = '\x08' := Char.ext (UInt32.toNat_inj.1 h6)
    exact bound fun r => ('\x08' :: r.1, r.2)
  · obtain rfl : c = '\x0c' := Char.ext (UInt32.toNat_inj.1 h7)
    exact bound fun r => ('\x0c' :: r.1, r.2)
  · have chars : (Text.CodePoint.char c).chars = [c] := by
      refine Text.chars_of_ne_mark fun hmark => ?_
      rw [hmark] at hcontrol
      exact absurd hcontrol (by decide)
    have escape := unicodeEscape_hexDigits (d := d) hcontrol
      ('u' :: (Text.hexDigits 4 c.toNat ++ d :: rest)) rest
    rw [List.cons_append, List.cons_append, readChars, if_neg (by decide), if_pos rfl]
    simp only [escape, bind, Except.bind, chars]
    exact bound fun r => (c :: r.1, r.2)
  · rw [List.singleton_append, readChars.eq_def]
    dsimp only
    rw [if_neg h1, if_neg h2, if_neg hcontrol]
    exact bound fun r => (c :: r.1, r.2)

theorem readChars_escaped (cs rest : List Char) (h : cs.length < fuel) :
    readChars opening fuel (cs.flatMap escapeChar ++ '"' :: rest) = .ok (cs, rest) := by
  induction cs generalizing fuel with
  | nil =>
    obtain ⟨fuel, rfl⟩ := Nat.exists_eq_succ_of_ne_zero (Nat.ne_of_gt h)
    rfl
  | cons c cs ih =>
    obtain ⟨fuel, rfl⟩ := Nat.exists_eq_succ_of_ne_zero (Nat.ne_of_gt (Nat.zero_lt_of_lt h))
    have later := ih (Nat.lt_of_succ_lt_succ h)
    obtain ⟨d, ds, hds⟩ : ∃ d ds, cs.flatMap escapeChar ++ '"' :: rest = d :: ds :=
      List.exists_cons_of_ne_nil (by simp)
    rw [hds] at later
    rw [List.flatMap_cons, List.append_assoc, hds, readChars_escapeChar, later]
    rfl

theorem length_le_flatMap_escapeChar (cs : List Char) :
    cs.length ≤ (cs.flatMap escapeChar).length := by
  induction cs with
  | nil => exact Nat.le_refl 0
  | cons c cs ih =>
    have : 0 < (escapeChar c).length := by
      rw [escapeChar]
      split_ifs <;> exact Nat.succ_pos _
    rw [List.flatMap_cons, List.length_append, List.length_cons]
    omega

theorem readText_writeText (s : String) (rest : List Char) :
    readText ((writeText s).toList ++ rest) = .ok (s, rest) := by
  have written : (writeText s).toList ++ rest =
      '"' :: (s.toList.flatMap escapeChar ++ '"' :: rest) := by
    rw [writeText, String.toList_ofList, List.cons_append, List.append_assoc,
      List.singleton_append]
  have length := length_le_flatMap_escapeChar s.toList
  rw [readText, written, List.drop_one, List.tail_cons, readChars_escaped]
  · exact congrArg (fun t => Except.ok (t, rest)) String.ofList_toList
  · simp only [List.length_cons, List.length_append]
    omega

end Texts

/-! ## Digits -/

/-- What may follow a number: nothing that would belong to it. -/
def Ends (rest : List Char) : Prop :=
  ∀ c ∈ rest.head?, c.isDigit = false ∧ c ≠ '.' ∧ c ≠ 'e' ∧ c ≠ 'E'

theorem isDigit_of_mem_toDigits {n : Nat} : ∀ c ∈ Nat.toDigits 10 n, c.isDigit = true :=
  fun _ h => Nat.isDigit_of_mem_toDigits (by decide) (by decide) h

theorem digitsValue_eq (ds : List Char) : digitsValue ds = Nat.ofDigitChars 10 ds 0 := by
  rw [digitsValue, Nat.ofDigitChars]
  simp only [Nat.mul_comm]
  rfl

theorem digitsValue_toDigits (n : Nat) : digitsValue (Nat.toDigits 10 n) = n := by
  rw [digitsValue_eq, Nat.ofDigitChars_toDigits (by decide) (by decide)]

/-- The digits of a positive number start with no zero. -/
theorem exists_toDigits_eq_cons {n : Nat} (h : n ≠ 0) :
    ∃ d ds, Nat.toDigits 10 n = d :: ds ∧ d ≠ '0' := by
  induction n using Nat.strongRecOn with
  | ind n ih =>
    rw [Nat.toDigits_eq_if (by decide)]
    split
    · rename_i hlt
      refine ⟨_, [], rfl, ?_⟩
      have : ∀ n < 10, n ≠ 0 → n.digitChar ≠ '0' := by decide
      exact this n hlt h
    · obtain ⟨d, ds, hds, hd⟩ := ih (n / 10) (by omega) (by omega)
      exact ⟨d, ds ++ [(n % 10).digitChar], by rw [hds, List.cons_append], hd⟩

section Digits

variable {ds rest : List Char} (hds : ∀ c ∈ ds, c.isDigit = true)
  (hrest : ∀ c ∈ rest.head?, c.isDigit = false)
include hds hrest

theorem takeWhile_isDigit : (ds ++ rest).takeWhile Char.isDigit = ds := by
  rw [List.takeWhile_append_of_pos hds]
  cases rest with
  | nil => exact List.append_nil ds
  | cons c rest => rw [List.takeWhile_cons_of_neg (by simp [hrest c rfl]), List.append_nil]

theorem dropWhile_isDigit : (ds ++ rest).dropWhile Char.isDigit = rest := by
  rw [List.dropWhile_append_of_pos hds]
  cases rest with
  | nil => rfl
  | cons c rest => rw [List.dropWhile_cons_of_neg (by simp [hrest c rfl])]

end Digits

/-- Digits that start with no zero are a whole part, up to what is no digit. -/
theorem splitWhole_of_ne_zero {d : Char} {ds rest : List Char} (hd : d ≠ '0')
    (hds : ∀ c ∈ d :: ds, c.isDigit = true) (hrest : ∀ c ∈ rest.head?, c.isDigit = false) :
    splitWhole (d :: ds ++ rest) = some (d :: ds, rest) := by
  rw [List.cons_append, splitWhole.eq_def]
  split
  · rename_i heq
    exact absurd (List.cons.inj heq).1 hd
  · rename_i heq
    obtain ⟨rfl, -⟩ := List.cons.inj heq
    rw [if_pos (hds _ List.mem_cons_self), ← List.cons_append, takeWhile_isDigit hds hrest,
      dropWhile_isDigit hds hrest]
  · contradiction

/-- The whole part is what the digits of a number write. -/
theorem splitWhole_toDigits (n : Nat) {rest : List Char}
    (hrest : ∀ c ∈ rest.head?, c.isDigit = false) :
    splitWhole (Nat.toDigits 10 n ++ rest) = some (Nat.toDigits 10 n, rest) := by
  by_cases h : n = 0
  · subst h
    rfl
  · obtain ⟨d, ds, hds, hd⟩ := exists_toDigits_eq_cons h
    rw [hds]
    exact splitWhole_of_ne_zero hd (hds ▸ isDigit_of_mem_toDigits) hrest

/-! ## Numbers without places -/

section Ends

variable {rest : List Char} (h : Ends rest)
include h

theorem Ends.isDigit : ∀ c ∈ rest.head?, c.isDigit = false := fun c hc => (h c hc).1

theorem Ends.splitFraction : splitFraction rest = ([], rest) := by
  cases rest with
  | nil => rfl
  | cons c rest =>
    rw [Json.splitFraction.eq_def]
    split
    · rename_i heq
      exact absurd (List.cons.inj heq).1 (h c rfl).2.1
    · rfl

theorem Ends.splitExponent : splitExponent rest = (none, rest) := by
  cases rest with
  | nil => rfl
  | cons c rest =>
    obtain ⟨-, -, he, hE⟩ := h c rfl
    rw [Json.splitExponent.eq_def]
    simp [he, hE]

end Ends

theorem afterWord?_of_ne {word : String} {c d : Char} {cs : List Char}
    (hword : word.toList = c :: cs) (h : c ≠ d) (ds : List Char) :
    afterWord? word (d :: ds) = none := by
  simp [afterWord?, hword, List.isPrefixOf, h]

/-- The characters of a sign. -/
def signChars (negative : Bool) : List Char := if negative then ['-'] else []

section Signed

variable {d : Char} (hd : d.isDigit = true)
include hd

theorem ne_of_isDigit {c : Char} (hc : c.isDigit = false) : c ≠ d := by
  rintro rfl
  rw [hc] at hd
  cases hd

/-- Where a digit stands behind the sign, there is no keyword. -/
theorem afterWord?_signed (negative : Bool) (ds : List Char) :
    ∀ k ∈ keywords, afterWord? k.1 (signChars negative ++ d :: ds) = none := by
  simp only [keywords, List.forall_mem_cons]
  cases negative with
  | false =>
    have none (word : String) {c : Char} {cs : List Char} (hword : word.toList = c :: cs)
        (hc : c.isDigit = false) : afterWord? word (d :: ds) = none :=
      afterWord?_of_ne hword (ne_of_isDigit hd hc) ds
    exact ⟨none "null" rfl rfl, none "true" rfl rfl, none "false" rfl rfl, none "NaN" rfl rfl,
      none "Infinity" rfl rfl, none "-Infinity" rfl rfl, fun _ h => absurd h List.not_mem_nil⟩
  | true =>
    have none (word : String) {c : Char} {cs : List Char} (hword : word.toList = c :: cs)
        (hc : c ≠ '-') : afterWord? word ('-' :: d :: ds) = none :=
      afterWord?_of_ne hword hc (d :: ds)
    have infinity : afterWord? "-Infinity" ('-' :: d :: ds) = .none := by
      have := ne_of_isDigit hd (c := 'I') rfl
      simp [afterWord?, List.isPrefixOf, this]
    exact ⟨none "null" rfl (by decide), none "true" rfl (by decide), none "false" rfl (by decide),
      none "NaN" rfl (by decide), none "Infinity" rfl (by decide), infinity,
      fun _ h => absurd h List.not_mem_nil⟩

theorem readAtom_signed (negative : Bool) (ds : List Char) :
    readAtom (signChars negative ++ d :: ds) = readNumber (signChars negative ++ d :: ds) := by
  rw [readAtom, List.findSome?_eq_none_iff.2 ?_]
  rintro ⟨word, v⟩ hk
  exact Option.map_eq_none_iff.2 (afterWord?_signed hd negative ds (word, v) hk)

/-- The parts of a number, one after the other. -/
theorem readNumber_signed (negative : Bool) {ds whole places rest₁ rest₂ rest₃ : List Char}
    {power : Option Int} (hwhole : splitWhole (d :: ds) = some (whole, rest₁))
    (hplaces : splitFraction rest₁ = (places, rest₂))
    (hpower : splitExponent rest₂ = (power, rest₃)) :
    readNumber (signChars negative ++ d :: ds) =
      if places.isEmpty && power.isNone then
        if Number.maxDigits < whole.length then .error (.hugeInteger whole.length)
        else .ok (.int (if negative then -(digitsValue whole : Int) else digitsValue whole), rest₃)
      else .ok (.float (Binary64.ofDecimal negative (digitsValue (whole ++ places))
        (power.getD 0 - places.length)), rest₃) := by
  cases negative with
  | true =>
    rw [signChars, if_pos rfl, List.singleton_append, readNumber.eq_def]
    simp only [hwhole, hplaces, hpower, if_true]
  | false =>
    rw [signChars, if_neg Bool.false_ne_true, List.nil_append, readNumber.eq_def]
    split
    rename_i negative unsigned heq
    split at heq
    · rename_i hminus
      exact absurd (List.cons.inj hminus).1.symm (ne_of_isDigit hd rfl)
    · obtain ⟨rfl, rfl⟩ := Prod.mk.inj heq
      simp only [hwhole, hplaces, hpower, Bool.false_eq_true, if_false]

end Signed

theorem readAtom_intText {n : Int} (h : (Nat.toDigits 10 n.natAbs).length ≤ Number.maxDigits)
    {rest : List Char} (hrest : Ends rest) :
    readAtom ((Number.intText n).toList ++ rest) = .ok (.int n, rest) := by
  have written : (Number.intText n).toList =
      signChars (decide (n < 0)) ++ Nat.toDigits 10 n.natAbs := by
    cases n with
    | ofNat n => simp [Number.intText, Number.natText, signChars]
    | negSucc n => simp [Number.intText, Number.natText, signChars, Int.negSucc_lt_zero]
  obtain ⟨d, ds, hds⟩ := List.exists_cons_of_ne_nil (Nat.toDigits_ne_nil (n := n.natAbs) (b := 10))
  have hd : d.isDigit = true := isDigit_of_mem_toDigits d (hds ▸ List.mem_cons_self)
  have whole := splitWhole_toDigits n.natAbs hrest.isDigit
  rw [hds, List.cons_append] at whole
  rw [written, hds, List.append_assoc, List.cons_append, readAtom_signed hd,
    readNumber_signed hd _ whole hrest.splitFraction hrest.splitExponent, ← hds,
    digitsValue_toDigits]
  have value : (if decide (n < 0) then -(n.natAbs : Int) else n.natAbs) = n := by
    split <;> rename_i hn <;> rw [decide_eq_true_iff] at hn <;> omega
  rw [value]
  simp [Nat.not_lt.2 h]

end SdlPhp.Json
