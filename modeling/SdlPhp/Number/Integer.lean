import SdlPhp.Text.Blank
import SdlPhp.Text.Digit

/-!
# Integers as text

Integers are written in decimal. Read is what a person may have written: decimal digits of any
script with an optional sign, blanks at the ends, and single underscores between digits; very long
texts are refused.
-/

namespace SdlPhp.Number

/-! ## Writing -/

def natText (n : Nat) : String := String.ofList (Nat.toDigits 10 n)

def intText : Int → String
  | .ofNat n => natText n
  | .negSucc n => "-" ++ natText (n + 1)

/-- More digits than this are refused. -/
def maxDigits : Nat := 4300

/-- The integer has not too many digits to be written. -/
@[irreducible]
def isWritable (n : Int) : Bool := n.natAbs < Nat.pow 10 maxDigits

theorem isWritable_iff {n : Int} : isWritable n = true ↔ n.natAbs < Nat.pow 10 maxDigits := by
  unfold isWritable
  exact decide_eq_true_iff

/-- What is wrong with an integer that has too many digits to be written. -/
def unwritableMessage : String :=
  s!"Exceeds the limit ({natText maxDigits} digits) for integer string conversion; " ++
    "use sys.set_int_max_str_digits() to increase the limit"

/-! ## Reading -/

/-- What is wrong with a number of so many digits. -/
def tooLongMessage (digits : Nat) : String :=
  s!"Exceeds the limit ({natText maxDigits} digits) for integer string conversion: " ++
    s!"value has {natText digits} digits; use sys.set_int_max_str_digits() to increase the limit"

/-- The digits with single underscores between them, as values. -/
def digitGroups : List Char → Option (List Nat)
  | [] => none
  | [c] => (Text.digitValue? c).map ([·])
  | c :: '_' :: cs => do return (← Text.digitValue? c) :: (← digitGroups cs)
  | c :: cs => do return (← Text.digitValue? c) :: (← digitGroups cs)

def ofDigits (ds : List Nat) : Nat := ds.foldl (fun n d => 10 * n + d) 0

def natural? (cs : List Char) : Option Nat :=
  (digitGroups cs).bind fun ds => if ds.length ≤ maxDigits then some (ofDigits ds) else none

def signed? : List Char → Option Int
  | '-' :: cs => (natural? cs).map fun n => -(n : Int)
  | '+' :: cs => (natural? cs).map fun n => (n : Int)
  | cs => (natural? cs).map fun n => (n : Int)

/-- The four separators are blanks, but they do not count as such around an integer. -/
def isSeparator (c : Char) : Bool := 0x1c ≤ c.toNat && c.toNat ≤ 0x1f

def integer? (s : String) : Option Int :=
  if s.toList.any isSeparator then none else signed? (Text.trim s.toList)

example : integer? " -1_0 " = some (-10) ∧ integer? "1__0" = none := by decide

end SdlPhp.Number
