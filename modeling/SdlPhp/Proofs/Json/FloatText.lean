import SdlPhp.Proofs.Json.Atoms
import SdlPhp.Proofs.Number.Shortest

/-!
# Numbers with places read back

The text of a double-precision number is its shortest decimal, with its point among the digits or
with an exponent behind them. The reader takes the text apart again and finds the decimal, but for
zeros that a layout adds. Main statement: `readAtom_floatText`.
-/

namespace SdlPhp.Json

open Binary64 (ofDecimal shortest)

/-! ## Digits -/

theorem foldl_digits (n : Nat) (ds : List Char) :
    ds.foldl (fun n c => n * 10 + (c.toNat - 48)) n = n * 10 ^ ds.length + digitsValue ds := by
  induction ds generalizing n with
  | nil => simp [digitsValue]
  | cons c ds ih =>
    rw [digitsValue, List.foldl_cons, List.foldl_cons, ih, ih (0 * 10 + _), List.length_cons]
    ring

theorem digitsValue_append (cs ds : List Char) :
    digitsValue (cs ++ ds) = digitsValue cs * 10 ^ ds.length + digitsValue ds := by
  rw [digitsValue, List.foldl_append, foldl_digits, ← digitsValue]

theorem digitsValue_zeros (n : Nat) : digitsValue (FloatLayout.zeros n) = 0 := by
  induction n with
  | zero => rfl
  | succ n ih =>
    rw [FloatLayout.zeros, List.replicate_succ, ← List.singleton_append, digitsValue_append]
    rw [FloatLayout.zeros] at ih
    rw [ih]
    simp [digitsValue]

theorem isDigit_of_mem_zeros {n : Nat} : ∀ c ∈ FloatLayout.zeros n, c.isDigit = true := by
  intro c hc
  rw [List.eq_of_mem_replicate hc]
  rfl

/-! ## Parts of a number -/

section Parts

variable {ps rest : List Char} (hps : ∀ c ∈ ps, c.isDigit = true)
include hps

/-- Digits behind a point are places. -/
theorem splitFraction_places (hne : ps ≠ []) (hrest : ∀ c ∈ rest.head?, c.isDigit = false) :
    splitFraction ('.' :: (ps ++ rest)) = (ps, rest) := by
  obtain ⟨d, ds, rfl⟩ := List.exists_cons_of_ne_nil hne
  rw [List.forall_mem_cons] at hps
  rw [List.cons_append, splitFraction, if_pos hps.1, takeWhile_isDigit hps.2 hrest,
    dropWhile_isDigit hps.2 hrest]

/-- A sign and digits behind the mark of an exponent are one. -/
theorem splitExponent_digits (hne : ps ≠ []) (hrest : Ends rest) (negative : Bool) :
    splitExponent ('e' :: (if negative then '-' else '+') :: (ps ++ rest)) =
      (some (if negative then -(digitsValue ps : Int) else digitsValue ps), rest) := by
  obtain ⟨d, ds, rfl⟩ := List.exists_cons_of_ne_nil hne
  have taken := takeWhile_isDigit hps hrest.isDigit
  have dropped := dropWhile_isDigit hps hrest.isDigit
  rw [List.cons_append] at taken dropped
  cases negative <;> simp [splitExponent, taken, dropped]

/-- Behind a zero and a point all digits are places. -/
theorem readAtom_below_one (negative : Bool) (hne : ps ≠ []) (hrest : Ends rest) :
    readAtom (signChars negative ++ '0' :: '.' :: (ps ++ rest)) =
      .ok (.float (ofDecimal negative (digitsValue ps) (-ps.length)), rest) := by
  rw [readAtom_signed rfl, readNumber_signed rfl negative rfl
    (splitFraction_places hps hne hrest.isDigit) hrest.splitExponent]
  simp [hne, digitsValue]

variable {d : Char} (hd : d.isDigit = true) (hzero : d ≠ '0')
include hd hzero

/-- A number with its point behind other digits. -/
theorem readAtom_places {ws : List Char} (hws : ∀ c ∈ ws, c.isDigit = true) (negative : Bool)
    (hne : ps ≠ []) (hrest : Ends rest) :
    readAtom (signChars negative ++ (d :: (ws ++ '.' :: (ps ++ rest)))) =
      .ok (.float (ofDecimal negative (digitsValue (d :: ws ++ ps)) (-ps.length)), rest) := by
  have point : ∀ c ∈ ('.' :: (ps ++ rest)).head?, c.isDigit = false := by
    rintro c hc
    obtain rfl : '.' = c := Option.some.inj hc
    rfl
  have whole := splitWhole_of_ne_zero hzero (List.forall_mem_cons.2 ⟨hd, hws⟩) point
  rw [List.cons_append] at whole
  rw [readAtom_signed hd, readNumber_signed hd negative whole
    (splitFraction_places hps hne hrest.isDigit) hrest.splitExponent]
  simp [hne]

/-- A number with an exponent behind its digits. -/
theorem readAtom_exponent (negative : Bool) {fraction es : List Char}
    (hfraction : ps = [] ∧ fraction = [] ∨ ps ≠ [] ∧ fraction = '.' :: ps)
    (hes : ∀ c ∈ es, c.isDigit = true) (hne : es ≠ []) (hrest : Ends rest) (below : Bool) :
    readAtom (signChars negative ++
        (d :: (fraction ++ 'e' :: (if below then '-' else '+') :: (es ++ rest)))) =
      .ok (.float (ofDecimal negative (digitsValue (d :: ps))
        ((if below then -(digitsValue es : Int) else digitsValue es) - ps.length)), rest) := by
  have exponent := splitExponent_digits hes hne hrest below
  have mark : ∀ c ∈ ('e' :: (if below then '-' else '+') :: (es ++ rest)).head?,
      c.isDigit = false := by
    rintro c hc
    obtain rfl : 'e' = c := Option.some.inj hc
    rfl
  have parts : splitFraction (fraction ++ 'e' :: (if below then '-' else '+') :: (es ++ rest)) =
      (ps, 'e' :: (if below then '-' else '+') :: (es ++ rest)) := by
    rcases hfraction with ⟨rfl, rfl⟩ | ⟨hps', rfl⟩
    · rfl
    · exact splitFraction_places hps hps' mark
  have point : ∀ c ∈ (fraction ++ 'e' :: (if below then '-' else '+') :: (es ++ rest)).head?,
      c.isDigit = false := by
    rcases hfraction with ⟨-, rfl⟩ | ⟨-, rfl⟩
    · exact mark
    · rintro c hc
      obtain rfl : '.' = c := Option.some.inj hc
      rfl
  have whole := splitWhole_of_ne_zero hzero (List.forall_mem_singleton.2 hd) point
  rw [List.singleton_append] at whole
  rw [readAtom_signed hd, readNumber_signed hd negative whole parts exponent]
  simp

end Parts

/-! ## Layouts -/

section Positional

variable {d : Char} {ds rest : List Char} (hdigits : ∀ c ∈ d :: ds, c.isDigit = true)
  (hrest : Ends rest) (negative : Bool)
include hdigits hrest

/-- The point before all digits. -/
theorem readAtom_positional_before {point : Int} (h : point ≤ 0) :
    readAtom (signChars negative ++ (FloatLayout.positional (d :: ds) point ++ rest)) =
      .ok (.float (ofDecimal negative (digitsValue (d :: ds)) (point - (d :: ds).length)),
        rest) := by
  have places : ∀ c ∈ FloatLayout.zeros (-point).toNat ++ d :: ds, c.isDigit = true :=
    List.forall_mem_append.2 ⟨isDigit_of_mem_zeros, hdigits⟩
  have value : digitsValue (FloatLayout.zeros (-point).toNat ++ d :: ds) =
      digitsValue (d :: ds) := by
    rw [digitsValue_append, digitsValue_zeros, Nat.zero_mul, Nat.zero_add]
  have exponent : -((FloatLayout.zeros (-point).toNat ++ d :: ds).length : Int) =
      point - (d :: ds).length := by
    rw [List.length_append, FloatLayout.zeros, List.length_replicate]
    omega
  have read := readAtom_below_one places negative (by simp) hrest
  rw [value, exponent] at read
  rw [FloatLayout.positional, if_pos h, List.cons_append, List.cons_append, read]

variable (hzero : d ≠ '0')
include hzero

/-- The point among the digits. -/
theorem readAtom_positional_within {p : Nat} (h : p < ds.length) :
    readAtom (signChars negative ++ (FloatLayout.positional (d :: ds) (p + 1 : Nat) ++ rest)) =
      .ok (.float (ofDecimal negative (digitsValue (d :: ds))
        ((p + 1 : Nat) - (d :: ds).length)), rest) := by
  rw [List.forall_mem_cons] at hdigits
  have whole : ∀ c ∈ ds.take p, c.isDigit = true :=
    fun c hc => hdigits.2 c (List.mem_of_mem_take hc)
  have places : ∀ c ∈ ds.drop p, c.isDigit = true :=
    fun c hc => hdigits.2 c (List.mem_of_mem_drop hc)
  have some : ds.drop p ≠ [] := List.drop_eq_nil_iff.not.2 (Nat.not_le.2 h)
  have exponent : -((ds.drop p).length : Int) = (p + 1 : Nat) - (d :: ds).length := by
    rw [List.length_drop, List.length_cons]
    omega
  have read := readAtom_places places hdigits.1 hzero whole negative some hrest
  rw [exponent, List.cons_append, List.take_append_drop] at read
  have before : p + 1 - (d :: ds).length = 0 := by
    rw [List.length_cons]
    omega
  rw [FloatLayout.positional, if_neg (by omega), Int.toNat_natCast, before]
  simpa [FloatLayout.zeros, some] using read

/-- The point behind all digits, with zeros between them and one behind it. -/
theorem readAtom_positional_behind (j : Nat) :
    readAtom (signChars negative ++
        (FloatLayout.positional (d :: ds) ((d :: ds).length + j : Nat) ++ rest)) =
      .ok (.float (ofDecimal negative (digitsValue (d :: ds) * 10 ^ (j + 1)) (-1)), rest) := by
  rw [List.forall_mem_cons] at hdigits
  have whole : ∀ c ∈ ds ++ FloatLayout.zeros j, c.isDigit = true :=
    List.forall_mem_append.2 ⟨hdigits.2, isDigit_of_mem_zeros⟩
  have value : digitsValue (d :: (ds ++ FloatLayout.zeros j) ++ ['0']) =
      digitsValue (d :: ds) * 10 ^ (j + 1) := by
    rw [← List.cons_append, digitsValue_append, digitsValue_append, digitsValue_zeros,
      FloatLayout.zeros, List.length_replicate]
    simp [digitsValue, Nat.pow_succ, Nat.mul_assoc]
  have zero : ∀ c ∈ ['0'], c.isDigit = true := List.forall_mem_singleton.2 rfl
  have read := readAtom_places zero hdigits.1 hzero whole negative (List.cons_ne_nil _ _) hrest
  rw [value] at read
  have taken : (d :: ds).take ((d :: ds).length + j) = d :: ds :=
    List.take_of_length_le (Nat.le_add_right _ _)
  have dropped : (d :: ds).drop ((d :: ds).length + j) = [] :=
    List.drop_of_length_le (Nat.le_add_right _ _)
  have positive : ¬ (((d :: ds).length + j : Nat) : Int) ≤ 0 := by
    rw [List.length_cons]
    omega
  rw [FloatLayout.positional, if_neg positive, Int.toNat_natCast, taken, dropped,
    Nat.add_sub_cancel_left]
  simpa using read

end Positional

section Layouts

variable {n : Nat} (hn : n ≠ 0) {rest : List Char} (hrest : Ends rest) (negative : Bool)
include hn hrest

/-- What is read of digits with a point among them: the digits with some zeros behind them. -/
theorem exists_readAtom_positional (k : Int) :
    ∃ j : Nat, readAtom (signChars negative ++
        (FloatLayout.positional (Nat.toDigits 10 n) (k + (Nat.toDigits 10 n).length) ++ rest)) =
      .ok (.float (ofDecimal negative (n * 10 ^ j) (k - j)), rest) := by
  have digits := isDigit_of_mem_toDigits (n := n)
  have value := digitsValue_toDigits n
  obtain ⟨d, ds, hds, hd⟩ := exists_toDigits_eq_cons hn
  rw [hds] at digits value ⊢
  have length : (d :: ds).length = ds.length + 1 := rfl
  by_cases hbefore : k + (d :: ds).length ≤ 0
  · have read := readAtom_positional_before digits hrest negative hbefore
    rw [value, Int.add_sub_cancel] at read
    exact ⟨0, by simpa using read⟩
  obtain ⟨p, hp⟩ : ∃ p : Nat, k + (d :: ds).length = (p + 1 : Nat) :=
    ⟨(k + (d :: ds).length).toNat - 1, by omega⟩
  by_cases hwithin : p < ds.length
  · have read := readAtom_positional_within digits hrest negative hd hwithin
    rw [value, ← hp, Int.add_sub_cancel] at read
    exact ⟨0, by simpa using read⟩
  · obtain ⟨j, hj⟩ : ∃ j : Nat, k = j := ⟨k.toNat, by omega⟩
    have read := readAtom_positional_behind digits hrest negative hd j
    rw [value, show (-1 : Int) = k - (j + 1 : Nat) by omega] at read
    rw [show k + (d :: ds).length = ((d :: ds).length + j : Nat) by omega]
    exact ⟨j + 1, read⟩

theorem readAtom_exponential (k : Int) :
    readAtom (signChars negative ++
        (FloatLayout.exponential (Nat.toDigits 10 n) (k + (Nat.toDigits 10 n).length) ++ rest)) =
      .ok (.float (ofDecimal negative n k), rest) := by
  have digits := isDigit_of_mem_toDigits (n := n)
  have value := digitsValue_toDigits n
  obtain ⟨d, ds, hds, hd⟩ := exists_toDigits_eq_cons hn
  rw [hds] at digits value ⊢
  rw [List.forall_mem_cons] at digits
  obtain ⟨e, he⟩ : ∃ e : Int, k + (d :: ds).length - 1 = e := ⟨_, rfl⟩
  have written : ∀ c ∈ FloatLayout.zeros (2 - (Nat.toDigits 10 e.natAbs).length) ++
      Nat.toDigits 10 e.natAbs, c.isDigit = true :=
    List.forall_mem_append.2 ⟨isDigit_of_mem_zeros, isDigit_of_mem_toDigits⟩
  have power : digitsValue (FloatLayout.zeros (2 - (Nat.toDigits 10 e.natAbs).length) ++
      Nat.toDigits 10 e.natAbs) = e.natAbs := by
    rw [digitsValue_append, digitsValue_zeros, digitsValue_toDigits, Nat.zero_mul, Nat.zero_add]
  have parts (fraction : List Char) (h : ds = [] ∧ fraction = [] ∨ ds ≠ [] ∧ fraction = '.' :: ds) :=
    readAtom_exponent digits.2 digits.1 hd negative h written (by simp) hrest (decide (e < 0))
  have exponent : (if decide (e < 0) = true then -(e.natAbs : Int) else e.natAbs) - ds.length = k := by
    rw [List.length_cons] at he
    split <;> rename_i h <;> rw [decide_eq_true_iff] at h <;> omega
  simp only [power, exponent, value] at parts
  rw [FloatLayout.exponential, he]
  cases ds with
  | nil =>
    have := parts [] (.inl ⟨rfl, rfl⟩)
    simpa using this
  | cons c ds =>
    have := parts ('.' :: c :: ds) (.inr ⟨List.cons_ne_nil _ _, rfl⟩)
    simpa using this

end Layouts

theorem readAtom_floatText {x : Binary64} (hx : x.IsNumber) {rest : List Char}
    (hrest : Ends rest) :
    readAtom ((FloatLayout.json.text x).toList ++ rest) = .ok (.float x, rest) := by
  cases x with
  | nan => exact absurd hx id
  | infinite negative => cases negative <;> rfl
  | finite negative m e =>
    have written : (FloatLayout.json.text (.finite negative m e)).toList ++ rest =
        signChars negative ++ (FloatLayout.json.magnitudeText m e ++ rest) := by
      rw [FloatLayout.text, String.toList_ofList, List.append_assoc]
      rfl
    rw [written, FloatLayout.magnitudeText]
    split
    · rename_i hm
      subst hm
      have least : e = Binary64.leastExponent := hx.2.2.2.resolve_left (by decide)
      subst least
      exact readAtom_below_one (List.forall_mem_singleton.2 rfl) negative (List.cons_ne_nil _ _)
        hrest
    · rename_i hm
      have positive := Nat.pos_of_ne_zero hm
      have nonzero := (Binary64.nearTo_shortest positive hx).1
      dsimp only
      split
      · obtain ⟨j, hj⟩ := exists_readAtom_positional nonzero hrest negative (shortest m e).exponent
        rw [hj, Binary64.ofDecimal_shortest positive hx]
      · have shortest := Binary64.ofDecimal_shortest positive hx 0
        rw [Nat.pow_zero, Nat.mul_one, Nat.cast_zero, Int.sub_zero] at shortest
        rw [readAtom_exponential nonzero hrest negative, shortest]

end SdlPhp.Json
