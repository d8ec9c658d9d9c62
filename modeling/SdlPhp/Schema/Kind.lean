/-!
# Kinds of types

The six kinds of named types of a schema.
-/

namespace SdlPhp

inductive TypeKind
  | scalar
  | inputObject
  | enum
  | object
  | interface
  | union
  deriving DecidableEq, Repr

namespace TypeKind

def all : List TypeKind := [.scalar, .inputObject, .enum, .object, .interface, .union]

def text : TypeKind → String
  | scalar => "scalar"
  | inputObject => "input_object"
  | enum => "enum"
  | object => "object"
  | interface => "interface"
  | union => "union"

/-- The words of a kind in a message. -/
def words : TypeKind → String
  | inputObject => "input object"
  | kind => kind.text

def ofText? (s : String) : Option TypeKind := all.find? (·.text == s)

/-- Types of these kinds may stand in input fields and arguments. -/
def isInput : TypeKind → Bool
  | scalar | inputObject | enum => true
  | object | interface | union => false

/-- Types of these kinds may be the types of fields. -/
def isOutput : TypeKind → Bool
  | inputObject => false
  | _ => true

end TypeKind

end SdlPhp
