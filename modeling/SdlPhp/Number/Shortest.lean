import SdlPhp.Number.Binary64

/-!
# Shortest decimals

The decimal with the fewest digits that reads back as a given double-precision number, and of those
the one nearest to it. The values that read back as `m · 2 ^ e` form an interval, whose ends belong
to it if `m` is even. On a decimal grid that meets the interval one of the two grid points next to
the number lies in it, so the grids are tried from coarse to fine.
-/

namespace SdlPhp.Binary64

/-- A positive decimal `digits · 10 ^ exponent`. -/
structure Decimal where
  digits : Nat
  exponent : Int
  deriving DecidableEq, Repr

/-- Four times `m · 2 ^ e`, and the ends of the interval of values that read back as it, as
multiples of `2 ^ (e - 2)`. -/
def interval (m : Nat) (e : Int) : Nat × Nat × Nat :=
  let below := if m = Nat.pow 2 52 && leastExponent < e then 1 else 2
  (4 * m, 4 * m - below, 4 * m + 2)

/-- The point of the grid `10 ^ k` that reads back as `m · 2 ^ e`, the nearer one of two. -/
def gridPoint? (m : Nat) (e k : Int) : Option Nat :=
  let q := e - 2
  let grid := Nat.pow 10 k.toNat * Nat.pow 2 (-q).toNat
  let unit := Nat.pow 2 q.toNat * Nat.pow 10 (-k).toNat
  let (v, lo, hi) := interval m e
  let inside (d : Nat) : Bool :=
    if m % 2 = 0 then lo * unit ≤ d * grid && d * grid ≤ hi * unit
    else lo * unit < d * grid && d * grid < hi * unit
  let d := v * unit / grid
  let before := v * unit - d * grid
  let after := (d + 1) * grid - v * unit
  match inside d, inside (d + 1) with
  | true, true =>
    some (if before < after || (before == after && d % 2 == 0) then d else d + 1)
  | true, false => some d
  | false, true => some (d + 1)
  | false, false => none

/-- Tries the grids `10 ^ k`, `10 ^ (k - 1)`, …. -/
def firstGrid (m : Nat) (e : Int) : Nat → Int → Decimal
  | 0, k => ⟨m, k⟩
  | tries + 1, k =>
    match gridPoint? m e k with
    | some d => ⟨d, k⟩
    | none => firstGrid m e tries (k - 1)

/-- Moves zeros at the end of the digits into the exponent. -/
def Decimal.strip : Nat → Decimal → Decimal
  | 0, x => x
  | n + 1, x =>
    if x.digits % 10 = 0 && x.digits ≠ 0 then Decimal.strip n ⟨x.digits / 10, x.exponent + 1⟩ else x

/-- The shortest decimal that reads back as `m · 2 ^ e`, for a positive `m`. -/
def shortest (m : Nat) (e : Int) : Decimal :=
  let magnitude := ((m.log2 : Int) + e) * 30103 / 100000
  (firstGrid m e 22 (magnitude + 2)).strip 22

end SdlPhp.Binary64
