import Mathlib.Algebra.Order.Field.Power
import Mathlib.Data.Nat.Log
import Mathlib.Data.Rat.Cast.Order
import Mathlib.Tactic.FieldSimp
import Mathlib.Tactic.Linarith
import Mathlib.Tactic.NormNum
import Mathlib.Tactic.Positivity
import Mathlib.Tactic.Ring
import SdlPhp.Number.Shortest

/-!
# Decimals that read as a given number

A quotient in the interval around `m · 2 ^ e` is read as that number: its exponent is the one of the
number or, just below a power of two, the one before it, and its mantissa is rounded to `m` or, in the
latter case, up to the power of two. Main statement: `ofRatio_of_near`.
-/

namespace SdlPhp.Binary64

/-- The number is an infinity or finite, and then written with as many binary digits as there are. -/
def IsNumber : Binary64 → Prop
  | nan => False
  | infinite _ => True
  | finite _ m e =>
    m < 2 ^ 53 ∧ leastExponent ≤ e ∧ e ≤ greatestExponent ∧ (2 ^ 52 ≤ m ∨ e = leastExponent)

/-! ## Powers of two -/

theorem two_zpow_eq (e : Int) : (2 : ℚ) ^ e = 2 ^ e.toNat / 2 ^ (-e).toNat := by
  rw [← zpow_natCast, ← zpow_natCast, ← zpow_sub₀ (by norm_num)]
  congr 1
  omega

theorem two_zpow_add (e : Int) (n : Nat) : (2 : ℚ) ^ (e + n) = 2 ^ e * 2 ^ n := by
  rw [zpow_add₀ (by norm_num), zpow_natCast]

/-! ## Rounding -/

/-- The quotient is rounded to a number at a distance of at most one half, to an even one if the
distance is one half. -/
theorem roundDiv_eq {num den m : Nat} (hlower : 2 * (m * den) ≤ 2 * num + den)
    (hupper : 2 * num ≤ 2 * (m * den) + den)
    (hodd : m % 2 = 1 → 2 * (m * den) < 2 * num + den ∧ 2 * num < 2 * (m * den) + den)
    (hden : 0 < den) : roundDiv num den = m := by
  have split := Nat.div_add_mod num den
  have rest := Nat.mod_lt num hden
  rw [Nat.mul_comm] at split
  -- the number is the quotient or the one after it
  rcases Nat.lt_trichotomy m (num / den) with hlt | rfl | hgt
  · have : (m + 1) * den ≤ num / den * den := Nat.mul_le_mul_right den hlt
    rw [Nat.succ_mul] at this
    omega
  · rw [roundDiv]
    rw [if_neg]
    simp only [Bool.or_eq_true, Bool.and_eq_true, decide_eq_true_iff, beq_iff_eq, not_or, not_and]
    refine ⟨by omega, fun _ hq => ?_⟩
    have := hodd hq
    omega
  · obtain rfl | hlarge : m = num / den + 1 ∨ num / den + 2 ≤ m := by omega
    · have : (num / den + 1) * den = num / den * den + den := Nat.succ_mul _ _
      rw [roundDiv]
      rw [if_pos]
      simp only [Bool.or_eq_true, Bool.and_eq_true, decide_eq_true_iff, beq_iff_eq]
      by_cases hhalf : den < 2 * (num % den)
      · exact .inl hhalf
      · refine .inr ⟨by omega, ?_⟩
        by_contra hq
        have := hodd (by omega)
        omega
    · have : (num / den + 2) * den ≤ m * den := Nat.mul_le_mul_right den hlarge
      rw [Nat.add_mul] at this
      omega

/-- The value lies within one half of a number, and strictly so for an odd one. -/
structure Within (x : ℚ) (m : Nat) : Prop where
  lower : (m : ℚ) - 1 / 2 ≤ x
  upper : x ≤ m + 1 / 2
  odd : m % 2 = 1 → (m : ℚ) - 1 / 2 < x ∧ x < m + 1 / 2

theorem roundDiv_of_within {num den m : Nat} (hden : 0 < den) (h : Within (num / den : ℚ) m) :
    roundDiv num den = m := by
  have hden' : (0 : ℚ) < den := by exact_mod_cast hden
  obtain ⟨lower, upper, odd⟩ := h
  rw [le_div_iff₀ hden'] at lower
  rw [div_le_iff₀ hden'] at upper
  rw [lt_div_iff₀ hden', div_lt_iff₀ hden'] at odd
  refine roundDiv_eq ?_ ?_ (fun hm => ?_) hden
  · have : (2 * (m * den) : ℚ) ≤ 2 * num + den := by linarith
    exact_mod_cast this
  · have : (2 * num : ℚ) ≤ 2 * (m * den) + den := by linarith
    exact_mod_cast this
  · have hodd := odd hm
    have first : (2 * (m * den) : ℚ) < 2 * num + den := by linarith
    have second : (2 * num : ℚ) < 2 * (m * den) + den := by linarith
    exact ⟨by exact_mod_cast first, by exact_mod_cast second⟩

theorem roundScaled_of_within {num den m : Nat} {e : Int} (hden : 0 < den)
    (h : Within (num / den / 2 ^ e : ℚ) m) : roundScaled num den e = m := by
  have scaled : roundScaled num den e =
      roundDiv (num * 2 ^ (-e).toNat) (den * 2 ^ e.toNat) := by
    rw [roundScaled]
    split
    · rw [show (-e).toNat = 0 by omega, Nat.pow_zero, Nat.mul_one]
      rfl
    · rw [show e.toNat = 0 by omega, Nat.pow_zero, Nat.mul_one]
      rfl
  rw [scaled]
  refine roundDiv_of_within (by positivity) ?_
  convert h using 1
  rw [two_zpow_eq]
  push_cast
  field_simp

/-! ## The exponent -/

/-- The quotient has at most as many binary digits before the exponent as there are. -/
def fits (num den : Nat) (e : Int) : Bool :=
  if 0 ≤ e then num < den * Nat.pow 2 e.toNat * Nat.pow 2 53
  else num * Nat.pow 2 (-e).toNat < den * Nat.pow 2 53

/-- The exponent for which the mantissa of a quotient has as many binary digits as there are. -/
def exponentOf (num den : Nat) : Int :=
  let e := (num.log2 : Int) - den.log2 - 53
  if fits num den e then e else e + 1

theorem ofRatio_eq (negative : Bool) (num den : Nat) : ofRatio negative num den =
    let e := max (exponentOf num den) leastExponent
    let m := roundScaled num den e
    let (m, e) := if m = Nat.pow 2 53 then (Nat.pow 2 52, e + 1) else (m, e)
    if greatestExponent < e then .infinite negative else .finite negative m e := rfl

theorem two_zpow_log2 {n : Nat} (h : 0 < n) :
    (2 : ℚ) ^ (n.log2 : Int) ≤ n ∧ (n : ℚ) < 2 ^ ((n.log2 : Int) + 1) := by
  have lower := Nat.log2_self_le (Nat.ne_of_gt h)
  have upper := Nat.lt_log2_self (n := n)
  constructor
  · rw [zpow_natCast]
    exact_mod_cast lower
  · have : (n : ℚ) < 2 ^ (n.log2 + 1) := by exact_mod_cast upper
    rwa [← zpow_natCast, Nat.cast_succ] at this

/-- The logarithms of the numbers give that of their quotient but for one. -/
theorem two_zpow_div {num den : Nat} (hnum : 0 < num) (hden : 0 < den) :
    (2 : ℚ) ^ ((num.log2 : Int) - den.log2 - 1) ≤ num / den ∧
      (num / den : ℚ) < 2 ^ ((num.log2 : Int) - den.log2 + 1) := by
  obtain ⟨nlower, nupper⟩ := two_zpow_log2 hnum
  obtain ⟨dlower, dupper⟩ := two_zpow_log2 hden
  have hden' : (0 : ℚ) < den := by exact_mod_cast hden
  constructor
  · rw [le_div_iff₀ hden']
    calc (2 : ℚ) ^ ((num.log2 : Int) - den.log2 - 1) * den
        ≤ 2 ^ ((num.log2 : Int) - den.log2 - 1) * 2 ^ ((den.log2 : Int) + 1) := by gcongr
      _ = 2 ^ (num.log2 : Int) := by
        rw [← zpow_add₀ (by norm_num)]
        congr 1
        ring
      _ ≤ num := nlower
  · rw [div_lt_iff₀ hden']
    calc (num : ℚ) < 2 ^ ((num.log2 : Int) + 1) := nupper
      _ = 2 ^ ((num.log2 : Int) - den.log2 + 1) * 2 ^ (den.log2 : Int) := by
        rw [← zpow_add₀ (by norm_num)]
        congr 1
        ring
      _ ≤ 2 ^ ((num.log2 : Int) - den.log2 + 1) * den := by gcongr

theorem fits_iff {num den : Nat} (hden : 0 < den) (e : Int) :
    fits num den e = true ↔ (num / den : ℚ) < 2 ^ (e + 53) := by
  have hden' : (0 : ℚ) < den := by exact_mod_cast hden
  have scaled : fits num den e = true ↔
      num * 2 ^ (-e).toNat < den * (2 ^ e.toNat * 2 ^ 53) := by
    rw [fits, ← Nat.mul_assoc]
    split
    · rw [show (-e).toNat = 0 by omega, Nat.pow_zero, Nat.mul_one]
      exact decide_eq_true_iff
    · rw [show e.toNat = 0 by omega, Nat.pow_zero, Nat.mul_one]
      exact decide_eq_true_iff
  have power : (2 : ℚ) ^ (e + 53) = 2 ^ e * 2 ^ 53 := two_zpow_add e 53
  rw [scaled, power, two_zpow_eq, div_mul_eq_mul_div, div_lt_div_iff₀ hden' (by positivity),
    mul_comm (2 ^ e.toNat * 2 ^ 53 : ℚ)]
  exact_mod_cast Iff.rfl

theorem exponentOf_bounds {num den : Nat} (hnum : 0 < num) (hden : 0 < den) :
    (2 : ℚ) ^ (exponentOf num den + 52) ≤ num / den ∧
      (num / den : ℚ) < 2 ^ (exponentOf num den + 53) := by
  obtain ⟨lower, upper⟩ := two_zpow_div hnum hden
  rw [exponentOf]
  generalize (num.log2 : Int) - den.log2 = log at lower upper ⊢
  split
  · rename_i hfits
    rw [show log - 53 + 52 = log - 1 by omega]
    exact ⟨lower, (fits_iff hden _).1 hfits⟩
  · rename_i hfits
    rw [fits_iff hden, not_lt] at hfits
    rw [show log - 53 + 1 + 52 = log - 53 + 53 by omega,
      show log - 53 + 1 + 53 = log + 1 by omega]
    exact ⟨hfits, upper⟩

theorem ofRatio_of_within {negative : Bool} {num den m : Nat} {e : Int} (hden : 0 < den)
    (he : max (exponentOf num den) leastExponent = e) (hm : m < 2 ^ 53)
    (hgreatest : e ≤ greatestExponent) (h : Within (num / den / 2 ^ e : ℚ) m) :
    ofRatio negative num den = .finite negative m e := by
  have mantissa := roundScaled_of_within hden h
  have full : m ≠ Nat.pow 2 53 := Nat.ne_of_lt hm
  rw [ofRatio_eq]
  simp only [he, mantissa, if_neg full, if_neg (Int.not_lt.2 hgreatest)]

/-- A quotient that is rounded up to a power of two. -/
theorem ofRatio_of_within_power {negative : Bool} {num den : Nat} {e : Int} (hden : 0 < den)
    (he : max (exponentOf num den) leastExponent = e - 1) (hgreatest : e ≤ greatestExponent)
    (h : Within (num / den / 2 ^ (e - 1) : ℚ) (2 ^ 53)) :
    ofRatio negative num den = .finite negative (2 ^ 52) e := by
  have mantissa := roundScaled_of_within hden h
  have full : (2 ^ 53 : Nat) = Nat.pow 2 53 := rfl
  have power : (Nat.pow 2 52, e - 1 + 1) = (2 ^ 52, e) := by rw [Int.sub_add_cancel]; rfl
  rw [ofRatio_eq]
  simp only [he, mantissa, if_pos full, power, if_neg (Int.not_lt.2 hgreatest)]

/-! ## The interval around a number -/

/-- The value is in the interval around a number, within which the ends count if the mantissa is
even. -/
structure Near (m : Nat) (e : Int) (x : ℚ) : Prop where
  lower : ((interval m e).2.1 : ℚ) * 2 ^ (e - 2) ≤ x
  upper : x ≤ ((interval m e).2.2 : ℚ) * 2 ^ (e - 2)
  odd : m % 2 = 1 → ((interval m e).2.1 : ℚ) * 2 ^ (e - 2) < x ∧
    x < ((interval m e).2.2 : ℚ) * 2 ^ (e - 2)

section Near

variable {m : Nat} {e : Int} {x : ℚ}

theorem two_zpow_sub_two (e : Int) : (2 : ℚ) ^ (e - 2) = 2 ^ e / 4 := by
  rw [zpow_sub₀ (by norm_num)]
  norm_num

theorem two_zpow_sub_one (e : Int) : (2 : ℚ) ^ (e - 1) = 2 ^ e / 2 := by
  rw [zpow_sub₀ (by norm_num)]
  norm_num

theorem cast_interval_upper (m : Nat) (e : Int) :
    ((interval m e).2.2 : ℚ) = 4 * m + 2 := by
  rw [interval]
  push_cast
  rfl

/-- The interval begins at most one half before the number. -/
theorem le_cast_interval_lower (hm : 0 < m) (e : Int) :
    (4 * m - 2 : ℚ) ≤ ((interval m e).2.1 : ℚ) := by
  have : 4 * m ≤ (interval m e).2.1 + 2 := by
    rw [interval]
    dsimp only
    split <;> omega
  have : (4 * m : ℚ) ≤ (interval m e).2.1 + 2 := by exact_mod_cast this
  linarith

/-- The interval around a power of two begins only one quarter before it. -/
theorem cast_interval_lower_power (h : leastExponent < e) :
    ((interval (2 ^ 52) e).2.1 : ℚ) = 4 * 2 ^ 52 - 1 := by
  have : (interval (2 ^ 52) e).2.1 = 4 * 2 ^ 52 - 1 := by
    rw [interval]
    simp [h]
  rw [this]
  norm_num

theorem Near.within (h : Near m e x) (hm : 0 < m) : Within (x / 2 ^ e) m := by
  have hpos : (0 : ℚ) < 2 ^ e := by positivity
  have first := le_cast_interval_lower hm e
  obtain ⟨lower, upper, odd⟩ := h
  rw [two_zpow_sub_two, cast_interval_upper] at upper odd
  rw [two_zpow_sub_two] at lower
  have start : ((4 * m - 2 : ℚ) * (2 ^ e / 4)) ≤ (interval m e).2.1 * (2 ^ e / 4) := by gcongr
  constructor
  · rw [le_div_iff₀ hpos]
    linarith
  · rw [div_le_iff₀ hpos]
    linarith
  · intro hm
    rw [lt_div_iff₀ hpos, div_lt_iff₀ hpos]
    obtain ⟨olower, oupper⟩ := odd hm
    constructor <;> linarith

/-- Just below a power of two, the mantissa for the exponent before is rounded up. -/
theorem within_power (hlower : (4 * 2 ^ 52 - 1) * (2 ^ e / 4) ≤ x) (hupper : x < 2 ^ e * 2 ^ 52) :
    Within (x / 2 ^ (e - 1)) (2 ^ 53) := by
  have hpos : (0 : ℚ) < 2 ^ e / 2 := by positivity
  rw [two_zpow_sub_one]
  constructor
  · rw [le_div_iff₀ hpos]
    push_cast
    linarith
  · rw [div_le_iff₀ hpos]
    push_cast
    linarith
  · intro hodd
    exact absurd hodd (by decide)

/-- A value below that of the least full mantissa is near no larger mantissa. -/
theorem Within.le_power (h : Within (x / 2 ^ e) m) (hupper : x < 2 ^ e * 2 ^ 52) :
    m ≤ 2 ^ 52 := by
  have hpos : (0 : ℚ) < 2 ^ e := by positivity
  have lower := h.lower
  rw [le_div_iff₀ hpos] at lower
  have small := lt_of_mul_lt_mul_right (lower.trans_lt (hupper.trans_eq (mul_comm _ _))) hpos.le
  have : (2 * m : ℚ) < 2 * 2 ^ 52 + 1 := by linarith
  have : 2 * m < 2 * 2 ^ 52 + 1 := by exact_mod_cast this
  omega

end Near

section OfRatio

variable {num den m : Nat} {e : Int} (hnum : 0 < num) (hden : 0 < den)
include hnum hden

theorem exponentOf_lt (h : (num / den : ℚ) < 2 ^ (e + 52)) : exponentOf num den < e := by
  have := (zpow_lt_zpow_iff_right₀ (by norm_num)).1
    ((exponentOf_bounds hnum hden).1.trans_lt h)
  omega

theorem le_exponentOf (h : (2 : ℚ) ^ (e + 52) ≤ num / den) : e ≤ exponentOf num den := by
  have := (zpow_lt_zpow_iff_right₀ (by norm_num)).1
    (h.trans_lt (exponentOf_bounds hnum hden).2)
  omega

/-- A quotient in the interval around a number is read as the number. -/
theorem ofRatio_of_near (negative : Bool) (hm : 0 < m) (hx : IsNumber (.finite negative m e))
    (h : Near m e (num / den)) : ofRatio negative num den = .finite negative m e := by
  obtain ⟨hsize, hleast, hgreatest, hnormal⟩ := hx
  have within := h.within hm
  have hpos : (0 : ℚ) < 2 ^ e := by positivity
  have size : (m : ℚ) + 1 ≤ 2 ^ 53 := by exact_mod_cast hsize
  have below : (num / den : ℚ) < 2 ^ (e + 1 + 52) := by
    have upper := within.upper
    rw [div_le_iff₀ hpos] at upper
    calc (num / den : ℚ) ≤ (m + 1 / 2) * 2 ^ e := upper
      _ < 2 ^ 53 * 2 ^ e := by gcongr; linarith
      _ = 2 ^ (e + 1 + 52) := by rw [mul_comm, show e + 1 + 52 = e + (53 : Nat) by omega,
        two_zpow_add]
  have notAbove := exponentOf_lt hnum hden below
  by_cases hfull : (2 : ℚ) ^ (e + 52) ≤ num / den
  · have := le_exponentOf hnum hden hfull
    exact ofRatio_of_within hden (by omega) hsize hgreatest within
  · rw [not_le] at hfull
    have smaller := exponentOf_lt hnum hden hfull
    by_cases hlast : e = leastExponent
    · exact ofRatio_of_within hden (by omega) hsize hgreatest within
    · -- only the least mantissa has quotients below it that are read with the exponent before
      have hmantissa : 2 ^ 52 ≤ m := hnormal.resolve_right hlast
      have hfull : (num / den : ℚ) < 2 ^ e * 2 ^ 52 := by rwa [← two_zpow_add]
      obtain rfl : m = 2 ^ 52 := Nat.le_antisymm (within.le_power hfull) hmantissa
      have lower := h.lower
      rw [cast_interval_lower_power (by omega), two_zpow_sub_two] at lower
      refine ofRatio_of_within_power hden ?_ hgreatest (within_power lower hfull)
      have start : e - 1 ≤ exponentOf num den := by
        refine le_exponentOf hnum hden ?_
        rw [show e - 1 + 52 = e - 1 + (52 : Nat) by rfl, two_zpow_add, two_zpow_sub_one]
        linarith
      omega

end OfRatio

/-! ## Decimals -/

theorem ten_zpow_add (k : Int) (n : Nat) : (10 : ℚ) ^ (k + n) = 10 ^ k * 10 ^ n := by
  rw [zpow_add₀ (by norm_num), zpow_natCast]

theorem ten_zpow_eq (k : Int) : (10 : ℚ) ^ k = 10 ^ k.toNat / 10 ^ (-k).toNat := by
  rw [← zpow_natCast, ← zpow_natCast, ← zpow_sub₀ (by norm_num)]
  congr 1
  omega

/-- A decimal lies between the powers of ten that its digits and its exponent give. -/
theorem decimal_bounds {d : Nat} (hd : d ≠ 0) (k : Int) :
    (10 : ℚ) ^ (k + digitCount d - 1) ≤ d * 10 ^ k ∧ (d * 10 ^ k : ℚ) < 10 ^ (k + digitCount d) := by
  have count : digitCount d = (Nat.toDigits 10 d).length := if_neg hd
  have hpos : 0 < digitCount d := count ▸ Nat.length_toDigits_pos
  have hpower : (0 : ℚ) < 10 ^ k := by positivity
  constructor
  · have lower : 10 ^ (digitCount d - 1) ≤ d := by
      by_contra hsmall
      rw [Nat.not_le] at hsmall
      rcases Nat.eq_zero_or_pos (digitCount d - 1) with hzero | hmore
      · rw [hzero] at hsmall
        omega
      · have := (Nat.length_toDigits_le_iff (by decide) hmore).2 hsmall
        omega
    rw [show k + digitCount d - 1 = k + (digitCount d - 1 : Nat) by omega, ten_zpow_add, mul_comm]
    have : (10 ^ (digitCount d - 1) : ℚ) ≤ d := by exact_mod_cast lower
    gcongr
  · have upper : d < 10 ^ digitCount d :=
      (Nat.length_toDigits_le_iff (by decide) hpos).1 (count ▸ Nat.le_refl _)
    rw [ten_zpow_add, mul_comm]
    have : (d : ℚ) < 10 ^ digitCount d := by exact_mod_cast upper
    gcongr

theorem power_greatest : (2 : ℚ) ^ (53 : Nat) * 2 ^ greatestExponent ≤ 10 ^ (400 : Int) := by
  have power : 2 ^ 53 * 2 ^ 971 ≤ 10 ^ 400 := by decide +kernel
  rw [greatestExponent, show (971 : Int) = (971 : Nat) from rfl,
    show (400 : Int) = (400 : Nat) from rfl, zpow_natCast, zpow_natCast]
  exact_mod_cast power

theorem power_least : (10 : ℚ) ^ (-400 : Int) ≤ 1 / 2 * 2 ^ leastExponent := by
  have power : 2 * 2 ^ 1074 ≤ 10 ^ 400 := by decide +kernel
  have power : (2 * 2 ^ 1074 : ℚ) ≤ 10 ^ 400 := by exact_mod_cast power
  rw [leastExponent, zpow_neg, zpow_neg, show (1074 : Int) = (1074 : Nat) from rfl,
    show (400 : Int) = (400 : Nat) from rfl, zpow_natCast, zpow_natCast, one_div, ← mul_inv]
  gcongr

section OfDecimal

variable {negative : Bool} {m d : Nat} {e k : Int} (hm : 0 < m) (hd : d ≠ 0)
  (hx : IsNumber (.finite negative m e)) (h : Near m e (d * 10 ^ k))
include hm hd hx h

/-- No number is as large as the decimals that are read as infinite by their size alone. -/
theorem not_large_of_near : ¬ 400 < k + digitCount d := by
  intro hlarge
  have hpos : (0 : ℚ) < 2 ^ e := by positivity
  have upper := (h.within hm).upper
  rw [div_le_iff₀ hpos] at upper
  have size : (m : ℚ) + 1 ≤ 2 ^ 53 := by exact_mod_cast hx.1
  have exponent : e ≤ greatestExponent := hx.2.2.1
  have : (10 : ℚ) ^ (400 : Int) < 2 ^ (53 : Nat) * 2 ^ greatestExponent := calc
    (10 : ℚ) ^ (400 : Int) ≤ 10 ^ (k + digitCount d - 1) :=
      zpow_le_zpow_right₀ (by norm_num) (by omega)
    _ ≤ (m + 1 / 2) * 2 ^ e := (decimal_bounds hd k).1.trans upper
    _ < 2 ^ (53 : Nat) * 2 ^ e := by gcongr; linarith
    _ ≤ 2 ^ (53 : Nat) * 2 ^ greatestExponent := by gcongr; norm_num
  exact absurd this (not_lt.2 power_greatest)

/-- No number but zero is as small as the decimals that are read as zero by their size alone. -/
theorem not_small_of_near : ¬ k + digitCount d < -400 := by
  intro hsmall
  have hpos : (0 : ℚ) < 2 ^ e := by positivity
  have lower := (h.within hm).lower
  rw [le_div_iff₀ hpos] at lower
  have positive : (1 : ℚ) ≤ m := by exact_mod_cast hm
  have exponent : leastExponent ≤ e := hx.2.1
  have : (1 / 2 : ℚ) * 2 ^ leastExponent < 10 ^ (-400 : Int) := calc
    (1 / 2 : ℚ) * 2 ^ leastExponent ≤ 1 / 2 * 2 ^ e := by gcongr; norm_num
    _ ≤ (m - 1 / 2) * 2 ^ e := by gcongr; linarith
    _ ≤ d * 10 ^ k := lower
    _ < 10 ^ (k + digitCount d) := (decimal_bounds hd k).2
    _ ≤ 10 ^ (-400 : Int) := zpow_le_zpow_right₀ (by norm_num) (by omega)
  exact absurd this (not_lt.2 power_least)

/-- A decimal in the interval around a number is read as the number. -/
theorem ofDecimal_of_near : ofDecimal negative d k = .finite negative m e := by
  rw [ofDecimal, if_neg hd, if_neg (not_large_of_near hm hd hx h),
    if_neg (not_small_of_near hm hd hx h)]
  split
  · rename_i hk
    have power : 0 < Nat.pow 10 k.toNat := Nat.pow_pos (by decide)
    refine ofRatio_of_near (Nat.mul_pos (Nat.pos_of_ne_zero hd) power) one_pos negative hm hx ?_
    convert h using 1
    rw [ten_zpow_eq, show (-k).toNat = 0 by omega]
    simp
  · rename_i hk
    have power : 0 < Nat.pow 10 (-k).toNat := Nat.pow_pos (by decide)
    refine ofRatio_of_near (Nat.pos_of_ne_zero hd) power negative hm hx ?_
    convert h using 1
    rw [ten_zpow_eq, show k.toNat = 0 by omega]
    simp [div_eq_mul_inv]

end OfDecimal

end SdlPhp.Binary64
