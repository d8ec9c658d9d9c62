import SdlPhp.Entries
import SdlPhp.Schema.Kind
import SdlPhp.Schema.TypeRef

/-!
# Schemas

A schema as the generator sees it: the definitions of enums, input objects and objects in the order
of the document, and a registry with the kind of every named type.
-/

namespace SdlPhp

/-- A field of an input object or an argument of a field. -/
structure InputValue where
  name : String
  type : TypeRef
  description : Option String := none
  deriving DecidableEq, Repr

/-- A field of an object, which may take arguments. -/
structure ObjectField where
  name : String
  type : TypeRef
  arguments : List InputValue := []
  description : Option String := none
  deriving DecidableEq, Repr

structure EnumValue where
  name : String
  description : Option String := none
  deriving DecidableEq, Repr

inductive Definition
  | enum (name : String) (values : List EnumValue) (description : Option String)
  | input (name : String) (fields : List InputValue) (description : Option String)
  | object (name : String) (fields : List ObjectField) (description : Option String)
  deriving DecidableEq, Repr

namespace Definition

def name : Definition → String
  | enum name _ _ => name
  | input name _ _ => name
  | object name _ _ => name

/-- The kind of the defined type. -/
def kind : Definition → TypeKind
  | enum _ _ _ => .enum
  | input _ _ _ => .inputObject
  | object _ _ _ => .object

/-- The fields of an input object, or the arguments of the fields of an object, in their order. -/
def inputValues : Definition → List InputValue
  | enum _ _ _ => []
  | input _ fields _ => fields
  | object _ fields _ => fields.flatMap (·.arguments)

/-- The values of an enum. -/
def enumValues : Definition → List EnumValue
  | enum _ values _ => values
  | _ => []

/-- The fields of an object. -/
def objectFields : Definition → List ObjectField
  | object _ fields _ => fields
  | _ => []

end Definition

/-- The named types of a schema with their kinds, in the order of the schema. -/
structure Registry where
  kinds : Entries TypeKind
  deriving DecidableEq, Repr

namespace Registry

/-- Of several pairs with one name the last kind counts, in the place of the first. -/
def ofPairs (pairs : List (String × TypeKind)) : Registry := ⟨Entries.ofPairs pairs⟩

def kind? (r : Registry) (name : String) : Option TypeKind := r.kinds.get? name

def contains (r : Registry) (name : String) : Bool := r.kinds.has name

def names (r : Registry) : List String := r.kinds.keys

def size (r : Registry) : Nat := r.kinds.length

/-- The scalars in the order of the registry. -/
def scalars (r : Registry) : List String := r.names.filter fun n => r.kind? n == some .scalar

end Registry

structure Schema where
  definitions : List Definition
  registry : Registry
  deriving DecidableEq, Repr

namespace Schema

def definition? (s : Schema) (name : String) : Option Definition :=
  s.definitions.find? (·.name == name)

end Schema

end SdlPhp
