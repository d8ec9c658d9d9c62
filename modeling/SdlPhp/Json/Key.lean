import SdlPhp.Json.Writer

/-!
# Keys

Tables whose keys may be any values but lists and objects. Numbers that are equal are one key, and
`true` and `false` are the numbers one and zero. Main statement: under texts such a table keeps what
a table of texts keeps.
-/

namespace SdlPhp

namespace Json

/-- The value can be a key of a table. -/
def isKey : Json → Bool
  | list _ | object _ => false
  | _ => true

/-- The two values are one key. -/
def sameKey (a b : Json) : Bool := a.sameAtom b

/-- The key of an object that a key is written as. -/
def keyText : Json → String
  | text s => s
  | v => v.write

theorem sameKey_text (s key : String) : sameKey (.text s) (.text key) = (s == key) := by
  simp [sameKey, number?, sameAtom]

theorem sameKey_text_of_asText?_eq_none {k : Json} (h : k.asText? = none) (key : String) :
    k.sameKey (.text key) = false := by
  cases k <;> simp_all [sameKey, number?, sameAtom, asText?]

end Json

/-- Keys of any kind with values, in the order in which the keys were first put. -/
abbrev KeyTable (α : Type) := List (Json × α)

namespace KeyTable

variable {α : Type}

/-- Replaces the value of `key` in its place, or puts the new key last. -/
def put : KeyTable α → Json → α → KeyTable α
  | [], key, value => [(key, value)]
  | (k, v) :: t, key, value =>
    if k.sameKey key then (k, value) :: t else (k, v) :: put t key value

/-- Puts the entries of the second table one after the other. -/
def update (t u : KeyTable α) : KeyTable α := u.foldl (fun t e => put t e.1 e.2) t

def ofEntries (t : Entries α) : KeyTable α := t.map fun e => (.text e.1, e.2)

/-- The entries under texts. -/
def textEntries (t : KeyTable α) : Entries α := t.filterMap fun e => e.1.asText?.map (·, e.2)

/-- The entries with their keys written as texts. -/
def fields (t : KeyTable α) : Entries α := t.map fun e => (e.1.keyText, e.2)

def mapValues {β : Type} (f : α → β) (t : KeyTable α) : KeyTable β := t.map fun e => (e.1, f e.2)

/-! ## Texts as keys -/

theorem textEntries_put_text (t : KeyTable α) (key : String) (value : α) :
    (put t (.text key) value).textEntries = Entries.put t.textEntries key value := by
  induction t with
  | nil => rfl
  | cons e t ih =>
    obtain ⟨k, v⟩ := e
    cases hk : k.asText? with
    | none =>
      simp only [put, Json.sameKey_text_of_asText?_eq_none hk, Bool.false_eq_true, if_false]
      simpa [textEntries, hk] using ih
    | some s =>
      obtain rfl : k = .text s := by cases k <;> simp_all [Json.asText?]
      by_cases h : s = key
      · simp [put, Json.sameKey_text, h, textEntries, Json.asText?, Entries.put]
      · simpa [put, Json.sameKey_text, h, textEntries, Json.asText?, Entries.put] using ih

end KeyTable

end SdlPhp
