import SdlPhp.Entries
import SdlPhp.Number.Integer
import SdlPhp.Number.Layout
import SdlPhp.Text.Quoted

/-!
# JSON values

Values of the data format, in which whole and double-precision numbers are told apart and objects
keep the order of their keys, together with their texts in messages: `True`, `False` and `None`,
quoted texts, `[…]` and `{…}`, and with what keeps such a text from being written.
-/

namespace SdlPhp

inductive Json
  | null
  | bool (b : Bool)
  | int (n : Int)
  | float (x : Binary64)
  | text (s : String)
  | list (items : List Json)
  | object (fields : List (String × Json))
  deriving Repr, Inhabited

namespace Json

/-- The name of the kind of a value. -/
def kindName : Json → String
  | null => "NoneType"
  | bool _ => "bool"
  | int _ => "int"
  | float _ => "float"
  | text _ => "str"
  | list _ => "list"
  | object _ => "dict"

mutual

/-- The literal of a value in a message, where it can be written. -/
def literal : Json → String
  | null => "None"
  | bool b => if b then "True" else "False"
  | int n => Number.intText n
  | float x => FloatLayout.message.text x
  | text s => Text.quoted s
  | list items => "[" ++ ", ".intercalate (literals items) ++ "]"
  | object fields => "\x7b" ++ ", ".intercalate (fieldLiterals fields) ++ "\x7d"

def literals : List Json → List String
  | [] => []
  | v :: vs => literal v :: literals vs

def fieldLiterals : List (String × Json) → List String
  | [] => []
  | (k, v) :: fs => (Text.quoted k ++ ": " ++ literal v) :: fieldLiterals fs

end

/-! ## Limits

The interpreter writes no integer of too many digits, and it takes lists and objects in one another
only as long as there is room on its stack. How much room there is, is a parameter; without one,
nothing is nested too deeply. -/

/-- The room that is left inside of a list or an object. -/
def enter? : Option Nat → Option (Option Nat)
  | none => some none
  | some 0 => none
  | some (n + 1) => some (some n)

/-- Why there is no literal of a value. -/
inductive WriteFault
  | hugeInteger
  | tooDeep
  deriving DecidableEq, Repr

def WriteFault.message : WriteFault → String
  | hugeInteger => Number.unwritableMessage
  | tooDeep => "maximum recursion depth exceeded while getting the repr of an object"

mutual

/-- What keeps the literal of a value from being written: the first such part. -/
def writeFault? (room : Option Nat) : Json → Option WriteFault
  | int n => if Number.isWritable n then none else some .hugeInteger
  | list items =>
    match enter? room with
    | some room => itemsWriteFault? room items
    | none => some .tooDeep
  | object fields =>
    match enter? room with
    | some room => fieldsWriteFault? room fields
    | none => some .tooDeep
  | _ => none

def itemsWriteFault? (room : Option Nat) : List Json → Option WriteFault
  | [] => none
  | v :: vs => (writeFault? room v).or (itemsWriteFault? room vs)

def fieldsWriteFault? (room : Option Nat) : List (String × Json) → Option WriteFault
  | [] => none
  | (_, v) :: fs => (writeFault? room v).or (fieldsWriteFault? room fs)

end

/-! ## Equality

Numbers are equal by their values, where true and false are one and zero. Objects are equal if they
have the same keys with equal values, in any order. -/

/-- The number that a value is, as a mantissa and an exponent of two. -/
def number? : Json → Option (Int × Int)
  | bool b => some (if b then 1 else 0, 0)
  | int n => some (n, 0)
  | float (.finite negative m e) => some (if negative then -(m : Int) else m, e)
  | _ => none

/-- The two numbers are equal. -/
def sameNumber (a b : Int × Int) : Bool :=
  let e := min a.2 b.2
  a.1 * Int.pow 2 (a.2 - e).toNat == b.1 * Int.pow 2 (b.2 - e).toNat

/-- Two values without parts are equal. -/
def sameAtom (a b : Json) : Bool :=
  match a.number?, b.number? with
  | some m, some n => sameNumber m n
  | _, _ =>
    match a, b with
    | null, null => true
    | float x, float y => x == y
    | text s, text t => s == t
    | _, _ => false

mutual

def same : Json → Json → Bool
  | list as, list bs => sameList as bs
  | object as, object bs => as.length == bs.length && sameFields as bs
  | a, b => sameAtom a b

def sameList : List Json → List Json → Bool
  | [], [] => true
  | a :: as, b :: bs => same a b && sameList as bs
  | _, _ => false

/-- Each field of the first list has an equal one in the second. -/
def sameFields : List (String × Json) → List (String × Json) → Bool
  | [], _ => true
  | (k, v) :: fs, bs =>
    (match Entries.get? bs k with
      | some w => same v w
      | none => false) && sameFields fs bs

end

/-! ## Use of a value -/

/-- A value without items where items are asked for. -/
structure ItemsFault where
  value : Json
  deriving Repr

def ItemsFault.message (f : ItemsFault) : String :=
  s!"'{f.value.kindName}' object is not iterable"

/-- The items of a value: the code points of a text, the keys of an object. -/
def items : Json → Except ItemsFault (List Json)
  | list items => .ok items
  | text s => .ok ((Text.codePoints s.toList).map fun p => .text (String.ofList p.chars))
  | object fields => .ok (fields.map fun f => .text f.1)
  | v => .error ⟨v⟩

/-- A value as it is put into a text. -/
def display : Json → String
  | text s => s
  | v => v.literal

/-- What a condition takes a value for. -/
def isTrue : Json → Bool
  | null => false
  | bool b => b
  | int n => n ≠ 0
  | float x => match x with
    | .finite _ m _ => m ≠ 0
    | _ => true
  | text s => !s.isEmpty
  | list items => !items.isEmpty
  | object fields => !fields.isEmpty

def asText? : Json → Option String
  | text s => some s
  | _ => none

def isObject : Json → Bool
  | object _ => true
  | _ => false

/-- The fields of an object; other values have none. -/
def fieldsOf : Json → Entries Json
  | object fields => fields
  | _ => []

end Json

end SdlPhp
