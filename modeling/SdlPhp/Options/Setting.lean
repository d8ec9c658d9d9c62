import SdlPhp.Json.Key

/-!
# Settings

What an option is set to: a value of its kind or, where nothing has checked it, a JSON value of
another kind. Either can be written as JSON, put into a text and taken for a condition. Where more
is needed of it, a value of another kind may be of no use.
-/

namespace SdlPhp

/-! ## Kinds -/

/-- A kind of values that options have, with the form in JSON from which they are read back. -/
class OptionKind (α : Type) where
  toJson : α → Json
  ofJson? : Json → Option α
  ofJson?_toJson (a : α) : ofJson? (toJson a) = some a := by intro _; rfl

namespace OptionKind

instance : OptionKind Json where
  toJson := id
  ofJson? := some

instance : OptionKind Bool where
  toJson := .bool
  ofJson?
    | .bool b => some b
    | _ => none

instance : OptionKind Int where
  toJson := .int
  ofJson?
    | .int n => some n
    | _ => none

instance : OptionKind String where
  toJson := .text
  ofJson? := Json.asText?

instance : OptionKind (Option String) where
  toJson s := (s.map .text).getD .null
  ofJson?
    | .null => some none
    | v => v.asText?.map some
  ofJson?_toJson s := by cases s <;> rfl

theorem mapM_asText? (texts : List String) :
    (texts.map Json.text).mapM Json.asText? = some texts := by
  induction texts with
  | nil => rfl
  | cons s texts ih => simp [Json.asText?, ih]

instance : OptionKind (List String) where
  toJson texts := .list (texts.map .text)
  ofJson?
    | .list items => items.mapM Json.asText?
    | _ => none
  ofJson?_toJson := mapM_asText?

section

variable {α : Type} [OptionKind α]

/-- The field of an object with a value of the kind. -/
def ofField? (field : String × Json) : Option (String × α) :=
  (ofJson? field.2).map (field.1, ·)

theorem mapM_ofField? (t : Entries α) : (t.mapValues toJson).mapM ofField? = some t := by
  induction t with
  | nil => rfl
  | cons e t ih =>
    simp only [Entries.mapValues] at ih
    simp [Entries.mapValues, ofField?, ofJson?_toJson, ih]

/-- Entries are the fields of an object. -/
instance : OptionKind (Entries α) where
  toJson t := .object (t.mapValues toJson)
  ofJson?
    | .object fields => fields.mapM ofField?
    | _ => none
  ofJson?_toJson := mapM_ofField?

end

end OptionKind

/-! ## Settings -/

inductive Setting (α : Type)
  | value (a : α)
  /-- A value of another kind. -/
  | other (v : Json)
  deriving Repr

namespace Setting

variable {α : Type}

/-- The value if it is of the kind of the option. -/
def value? : Setting α → Option α
  | value a => some a
  | other _ => none

/-- Changes a value of the kind of the option. -/
def map (f : α → α) : Setting α → Setting α
  | value a => value (f a)
  | other v => other v

variable [OptionKind α]

def ofJson (v : Json) : Setting α :=
  match OptionKind.ofJson? v with
  | some a => value a
  | none => other v

def json : Setting α → Json
  | value a => OptionKind.toJson a
  | other v => v

/-- What a condition takes the setting for. -/
def isTrue (s : Setting α) : Bool := s.json.isTrue

/-- The setting as it is put into a text. -/
def text (s : Setting α) : String := s.json.display

@[simp]
theorem text_value (s : String) : text (.value s) = s := rfl

@[simp]
theorem ofJson_toJson (a : α) : (ofJson (OptionKind.toJson a) : Setting α) = .value a := by
  simp [ofJson, OptionKind.ofJson?_toJson]

end Setting

/-! ## Values of no use -/

/-- Why a value of another kind than that of its option is of no use where it is needed. -/
inductive Misuse
  /-- Items are needed. -/
  | noItems (fault : Json.ItemsFault)
  /-- An operation is needed that the value does not have. -/
  | noOperation (value : Json) (operation : String)
  /-- A path is needed. -/
  | noPath (value : Json)
  /-- A value is needed that can be a key. -/
  | noKey (value : Json)
  /-- A pair is needed as the item of this number. -/
  | noPair (index : Nat)
  | pairLength (index length : Nat)
  deriving Repr

def Misuse.message : Misuse → String
  | noItems fault => fault.message
  | noOperation value operation => s!"'{value.kindName}' object has no attribute '{operation}'"
  | noPath value => s!"expected str, bytes or os.PathLike object, not {value.kindName}"
  | noKey value => s!"unhashable type: '{value.kindName}'"
  | noPair index => s!"cannot convert dictionary update sequence element #{index} to a sequence"
  | pairLength index length =>
    s!"dictionary update sequence element #{index} has length {length}; 2 is required"

namespace Json

/-- The key and the value that an item stands for. -/
def pair? (item : Json) (index : Nat) : Except Misuse (Json × Json) :=
  match item.items with
  | .error _ => .error (.noPair index)
  | .ok [key, value] => if key.isKey then .ok (key, value) else .error (.noKey key)
  | .ok items => .error (.pairLength index items.length)

/-- The entries that a value adds to a table: its fields, or items that are pairs. -/
def entries : Json → Except Misuse (KeyTable Json)
  | object fields => .ok (KeyTable.ofEntries fields)
  | v => do
    let items ← v.items.mapError .noItems
    items.zipIdx.mapM fun e => e.1.pair? e.2

end Json

end SdlPhp
