import SdlPhp.Number.Shortest

/-!
# Layouts of numbers

How double-precision numbers are written: with their shortest digits, positionally or with an
exponent as a layout says.
-/

namespace SdlPhp

/-- The decisions of a format for double-precision numbers. -/
structure FloatLayout where
  /-- Numbers from `10 ^ leastPositional` on are written positionally. -/
  leastPositional : Int
  /-- Numbers from `10 ^ leastExponential` on are written with an exponent. -/
  leastExponential : Int
  nan : String
  infinity : String
  negativeInfinity : String

namespace FloatLayout

def zeros (n : Nat) : List Char := List.replicate n '0'

/-- The digits with the point behind the first `point` of them, and at least one on each side. -/
def positional (digits : List Char) (point : Int) : List Char :=
  if point ≤ 0 then '0' :: '.' :: (zeros (-point).toNat ++ digits)
  else
    let whole := digits.take point.toNat ++ zeros (point.toNat - digits.length)
    let places := digits.drop point.toNat
    whole ++ '.' :: (if places.isEmpty then ['0'] else places)

/-- One digit, the point with the others if there are any, and an exponent with a sign and at least
two digits. -/
def exponential (digits : List Char) (point : Int) : List Char :=
  let fraction := match digits.drop 1 with
    | [] => []
    | ds => '.' :: ds
  let e := point - 1
  let size := Nat.toDigits 10 e.natAbs
  digits.take 1 ++ fraction ++ 'e' :: (if e < 0 then '-' else '+') ::
    (zeros (2 - size.length) ++ size)

def magnitudeText (l : FloatLayout) (m : Nat) (e : Int) : List Char :=
  if m = 0 then ['0', '.', '0']
  else
    let x := Binary64.shortest m e
    let digits := Nat.toDigits 10 x.digits
    let point := x.exponent + digits.length
    if l.leastPositional < point && point ≤ l.leastExponential then positional digits point
    else exponential digits point

/-- The text of a number. -/
def text (l : FloatLayout) : Binary64 → String
  | .nan => l.nan
  | .infinite negative => if negative then l.negativeInfinity else l.infinity
  | .finite negative m e =>
    String.ofList ((if negative then ['-'] else []) ++ l.magnitudeText m e)

/-- Positional from `0.0001` to below `1e16`, as messages write numbers. -/
def message : FloatLayout := ⟨-4, 16, "nan", "inf", "-inf"⟩

/-- As in messages, but with the data format's names of the values that are no numbers. -/
def json : FloatLayout := ⟨-4, 16, "NaN", "Infinity", "-Infinity"⟩

end FloatLayout

end SdlPhp
