import SdlPhp.Sdl.Excerpt
import SdlPhp.Sdl.Parser
import SdlPhp.Sdl.Validation

/-!
# Why a text describes no schema

A text fails to be a document, the document fails to be valid, or the types of a valid document do
not fit together. A message that reports the fields of a type shows where the fault stands if an
argument of a directive is at fault; a fault whose line cannot be shown has no message of its own.
-/

namespace SdlPhp

/-- Why a valid document describes no schema. -/
inductive BuildFault
  /-- An argument of a field or directive has a type that is no input type. -/
  | argumentType
  | fieldType
  | inputFieldType
  /-- A default reaches a type that is no input type. -/
  | defaultType (type : String)
  /-- The defaults of input objects ask for each other without end. -/
  | endlessDefault
  | interfaces (type : String)
  | members (type : String)
  /-- The literal starts where so many characters of the text are left. -/
  | invalidArgument (name : String) (literal : String) (left : Nat)
  | nullArgument (name : String) (type : TypeRef)
  | missingArgument (name : String) (type : TypeRef)
  /-- A fault in a field of a type. -/
  | inFields (type : String) (fault : BuildFault)
  deriving DecidableEq, Repr

namespace BuildFault

/-- A fault of a field whose place in the text has no line to show. -/
def isUnshowable (source : String) : BuildFault → Bool
  | inFields _ (invalidArgument _ _ left) => (Sdl.excerpt? source left).isNone
  | _ => false

/-- What a message about the fields of a type says about the place of the fault in them. -/
def place (source : String) : BuildFault → String
  | invalidArgument _ _ left => ((Sdl.excerpt? source left).map ("\n\n" ++ ·)).getD ""
  | _ => ""

/-- The message about a fault in a text. -/
def message (source : String) : BuildFault → String
  | argumentType => "Argument type must be a GraphQL input type."
  | fieldType => "Field type must be an output type."
  | inputFieldType => "Input field type must be a GraphQL input type."
  | defaultType type => s!"Unexpected input type: {type}."
  | endlessDefault => "maximum recursion depth exceeded"
  | interfaces type =>
    s!"{type} interfaces must be specified as a collection of GraphQLInterfaceType instances."
  | members type =>
    s!"{type} types must be specified as a collection of GraphQLObjectType instances."
  | invalidArgument name literal _ => s!"Argument '{name}' has invalid value {literal}."
  | nullArgument name type =>
    s!"Argument '{name}' of non-null type '{type.text}' must not be null."
  | missingArgument name type =>
    s!"Argument '{name}' of required type '{type.text}' was not provided."
  | inFields type fault =>
    if (inFields type fault).isUnshowable source then "list index out of range"
    else s!"{type} fields cannot be resolved. {fault.message source}{fault.place source}"

end BuildFault

/-- Why a text describes no schema. -/
inductive SchemaFault
  | syntactic (fault : Sdl.SyntaxFault)
  | invalid (violations : List Sdl.Violation)
  | unbuildable (source : String) (fault : BuildFault)
  deriving DecidableEq, Repr

/-- The faults that break off the reading of a text without a message about it. -/
def SchemaFault.isUntold : SchemaFault → Bool
  | syntactic fault => fault == .lexical .truncatedEscape
  | invalid _ => false
  | unbuildable source fault => fault.isUnshowable source

def SchemaFault.message : SchemaFault → String
  | syntactic fault => s!"Invalid schema: {fault.message}"
  | invalid violations =>
    "Invalid schema: " ++ "\n\n".intercalate (violations.map (·.message))
  | unbuildable source fault => s!"Invalid schema: {fault.message source}"

end SdlPhp
