import SdlPhp.Schema.TypeRef

/-!
# Documents of the schema language

What a text of the schema language says: definitions and extensions of types, of the schema and of
directives. Operations and fragments may stand in a document too; of them only the parts are kept
on which the validity of the document depends.
-/

namespace SdlPhp.Sdl

inductive OperationKind
  | query
  | mutation
  | subscription
  deriving DecidableEq, Repr

def OperationKind.text : OperationKind → String
  | query => "query"
  | mutation => "mutation"
  | subscription => "subscription"

def OperationKind.all : List OperationKind := [.query, .mutation, .subscription]

/-- Where a directive may stand. -/
inductive Location
  | query | mutation | subscription | field | fragmentDefinition | fragmentSpread | inlineFragment
  | variableDefinition | schema | scalar | object | fieldDefinition | argumentDefinition | interface
  | union | enum | enumValue | inputObject | inputFieldDefinition
  deriving DecidableEq, Repr

namespace Location

def all : List Location :=
  [query, mutation, subscription, field, fragmentDefinition, fragmentSpread, inlineFragment,
   variableDefinition, schema, scalar, object, fieldDefinition, argumentDefinition, interface,
   union, enum, enumValue, inputObject, inputFieldDefinition]

/-- The words of a location in a message. -/
def text : Location → String
  | query => "query"
  | mutation => "mutation"
  | subscription => "subscription"
  | field => "field"
  | fragmentDefinition => "fragment definition"
  | fragmentSpread => "fragment spread"
  | inlineFragment => "inline fragment"
  | variableDefinition => "variable definition"
  | schema => "schema"
  | scalar => "scalar"
  | object => "object"
  | fieldDefinition => "field definition"
  | argumentDefinition => "argument definition"
  | interface => "interface"
  | union => "union"
  | enum => "enum"
  | enumValue => "enum value"
  | inputObject => "input object"
  | inputFieldDefinition => "input field definition"

/-- The name of a location in a document: its words in upper case, with underscores between. -/
def keyword (l : Location) : String :=
  String.ofList (l.text.toList.map fun c => if c = ' ' then '_' else c.toUpper)

def ofKeyword? (s : String) : Option Location := all.find? (·.keyword == s)

end Location

/-- A literal. -/
inductive Literal
  | variableRef (name : String)
  | int (text : String)
  | float (text : String)
  | string (value : String) (block : Bool)
  | bool (value : Bool)
  | null
  | enum (name : String)
  | list (items : List Literal)
  | object (fields : List (String × Literal))
  deriving Repr

/-- An argument that is given to a directive or field. Its value starts where so many characters of
the text are left. -/
structure Argument where
  name : String
  value : Literal
  left : Nat
  deriving Repr

/-- The use of a directive with its arguments. -/
structure Directive where
  name : String
  arguments : List Argument
  deriving Repr

/-- An input field of an input object, or an argument of a field or directive. -/
structure InputDef where
  description : Option String
  name : String
  type : TypeRef
  default : Option Literal
  directives : List Directive
  deriving Repr

structure FieldDef where
  description : Option String
  name : String
  arguments : List InputDef
  type : TypeRef
  directives : List Directive
  deriving Repr

structure ValueDef where
  description : Option String
  name : String
  directives : List Directive
  deriving Repr

/-- What a definition or extension of a type contributes besides directives. -/
inductive Body
  | scalar
  | object (interfaces : List String) (fields : List FieldDef)
  | interface (interfaces : List String) (fields : List FieldDef)
  | union (members : List String)
  | enum (values : List ValueDef)
  | inputObject (fields : List InputDef)
  deriving Repr

/-- The body adds nothing to its type. -/
def Body.isBare : Body → Bool
  | scalar => true
  | object is fs => is.isEmpty && fs.isEmpty
  | interface is fs => is.isEmpty && fs.isEmpty
  | union ms => ms.isEmpty
  | enum vs => vs.isEmpty
  | inputObject fs => fs.isEmpty

/-- A definition or an extension of a type. -/
structure TypeNode where
  isExtension : Bool
  description : Option String
  name : String
  directives : List Directive
  body : Body
  deriving Repr

/-- A definition or an extension of the schema itself. -/
structure SchemaNode where
  isExtension : Bool
  directives : List Directive
  operations : List (OperationKind × String)
  deriving Repr

structure DirectiveDef where
  name : String
  arguments : List InputDef
  repeatable : Bool
  locations : List Location
  deriving Repr

/-- A selection of an operation or fragment. -/
inductive Selection
  | field (arguments : List Argument) (directives : List Directive)
      (selections : List Selection)
  | spread (directives : List Directive)
  | inline (condition : Option String) (directives : List Directive)
      (selections : List Selection)
  deriving Repr

structure VariableDef where
  type : TypeRef
  default : Option Literal
  directives : List Directive
  deriving Repr

/-- One definition or extension of a document. -/
inductive Statement
  | type (node : TypeNode)
  | schema (node : SchemaNode)
  | directive (node : DirectiveDef)
  | operation (kind : OperationKind) (variableDefs : List VariableDef) (directives : List Directive)
      (selections : List Selection)
  | fragment (condition : String) (directives : List Directive) (selections : List Selection)
  deriving Repr

abbrev Document := List Statement

namespace Document

/-- The definitions and extensions of types, in their order. -/
def typeNodes (d : Document) : List TypeNode :=
  d.filterMap fun
    | .type node => some node
    | _ => none

def typeDefinitions (d : Document) : List TypeNode := d.typeNodes.filter (!·.isExtension)

def directiveDefs (d : Document) : List DirectiveDef :=
  d.filterMap fun
    | .directive node => some node
    | _ => none

def schemaNodes (d : Document) : List SchemaNode :=
  d.filterMap fun
    | .schema node => some node
    | _ => none

end Document

end SdlPhp.Sdl
