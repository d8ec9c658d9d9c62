/-!
# Double-precision numbers

The values of the 64-bit binary floating-point format, and the reading of a decimal as the nearest
of them, in exact arithmetic. A decimal half-way between two values goes to the one with the even
mantissa; one too large for the format goes to infinity.
-/

namespace SdlPhp

/-- A double-precision number: not a number, an infinity, or `± mantissa · 2 ^ exponent`. -/
inductive Binary64
  | nan
  | infinite (negative : Bool)
  | finite (negative : Bool) (mantissa : Nat) (exponent : Int)
  deriving DecidableEq, Repr

namespace Binary64

/-- The exponent of the least positive value. -/
def leastExponent : Int := -1074

/-- The exponent of the greatest finite values. -/
def greatestExponent : Int := 971

def zero (negative : Bool) : Binary64 := .finite negative 0 leastExponent

/-- The quotient rounded to the nearest number; a half goes to the even one. -/
def roundDiv (num den : Nat) : Nat :=
  let q := num / den
  let r := num % den
  if den < 2 * r || (2 * r == den && q % 2 == 1) then q + 1 else q

/-- The quotient `num / den / 2 ^ e` rounded to the nearest number. -/
def roundScaled (num den : Nat) (e : Int) : Nat :=
  if 0 ≤ e then roundDiv num (den * Nat.pow 2 e.toNat) else roundDiv (num * Nat.pow 2 (-e).toNat) den

/-- The value nearest to the positive quotient `num / den`. -/
def ofRatio (negative : Bool) (num den : Nat) : Binary64 :=
  let e₀ : Int := (num.log2 : Int) - den.log2 - 53
  let fits : Bool :=
    if 0 ≤ e₀ then num < den * Nat.pow 2 e₀.toNat * Nat.pow 2 53
    else num * Nat.pow 2 (-e₀).toNat < den * Nat.pow 2 53
  let e := max (if fits then e₀ else e₀ + 1) leastExponent
  let m := roundScaled num den e
  let (m, e) := if m = Nat.pow 2 53 then (Nat.pow 2 52, e + 1) else (m, e)
  if greatestExponent < e then .infinite negative else .finite negative m e

/-- The number of decimal digits, none for zero. -/
def digitCount (n : Nat) : Nat := if n = 0 then 0 else (Nat.toDigits 10 n).length

/-- The value nearest to `± digits · 10 ^ exponent`. -/
def ofDecimal (negative : Bool) (digits : Nat) (exponent : Int) : Binary64 :=
  if digits = 0 then zero negative
  else if 400 < exponent + digitCount digits then .infinite negative
  else if exponent + digitCount digits < -400 then zero negative
  else if 0 ≤ exponent then ofRatio negative (digits * Nat.pow 10 exponent.toNat) 1
  else ofRatio negative digits (Nat.pow 10 (-exponent).toNat)

end Binary64

end SdlPhp
