import SdlPhp.Schema.Kind
import SdlPhp.Sdl.Builtin
import SdlPhp.Sdl.Suggestion

/-!
# Validity of a document

The rules that a document has to keep beyond its grammar. The document is walked once from front to
back, and every violation is reported where the walk meets it: first what is wrong about a node as a
whole, then what is wrong about its parts. Whether a name is repeated depends on the definitions
walked before; all other rules depend on facts about the whole document.
-/

namespace SdlPhp.Sdl

/-- A breach of one rule. -/
inductive Violation
  | secondSchema
  | repeatedOperation (kind : OperationKind)
  | repeatedType (name : String)
  | repeatedEnumValue (type value : String)
  | repeatedField (type field : String)
  /-- The owner is a field `T.f` or a directive `@d`. -/
  | repeatedArgumentDef (owner argument : String)
  | repeatedDirectiveDef (name : String)
  | unknownType (name : String) (suggestions : List String)
  | unknownDirective (name : String)
  | misplacedDirective (name : String) (location : Location)
  | repeatedDirective (name : String)
  | wrongExtension (kind : TypeKind) (name : String)
  | extendsUndefined (name : String) (suggestions : List String)
  | unknownArgument (argument directive : String) (suggestions : List String)
  | repeatedArgument (name : String)
  | repeatedInputField (name : String)
  | missingArgument (directive argument : String) (type : TypeRef)
  deriving DecidableEq, Repr

def Violation.message : Violation → String
  | secondSchema => "Must provide only one schema definition."
  | repeatedOperation kind => s!"There can be only one {kind.text} type in schema."
  | repeatedType name => s!"There can be only one type named '{name}'."
  | repeatedEnumValue type value => s!"Enum value '{type}.{value}' can only be defined once."
  | repeatedField type field => s!"Field '{type}.{field}' can only be defined once."
  | repeatedArgumentDef owner argument =>
    s!"Argument '{owner}({argument}:)' can only be defined once."
  | repeatedDirectiveDef name => s!"There can be only one directive named '@{name}'."
  | unknownType name suggestions => s!"Unknown type '{name}'." ++ Suggestion.question suggestions
  | unknownDirective name => s!"Unknown directive '@{name}'."
  | misplacedDirective name location =>
    s!"Directive '@{name}' may not be used on {location.text}."
  | repeatedDirective name =>
    s!"The directive '@{name}' can only be used once at this location."
  | wrongExtension kind name => s!"Cannot extend non-{kind.words} type '{name}'."
  | extendsUndefined name suggestions =>
    s!"Cannot extend type '{name}' because it is not defined." ++ Suggestion.question suggestions
  | unknownArgument argument directive suggestions =>
    s!"Unknown argument '{argument}' on directive '@{directive}'." ++
      Suggestion.question suggestions
  | repeatedArgument name => s!"There can be only one argument named '{name}'."
  | repeatedInputField name => s!"There can be only one input field named '{name}'."
  | missingArgument directive argument type =>
    s!"Directive '@{directive}' argument '{argument}' of type '{type.text}' is required, " ++
      "but it was not provided."

def Body.kind : Body → TypeKind
  | scalar => .scalar
  | object _ _ => .object
  | interface _ _ => .interface
  | union _ => .union
  | enum _ => .enum
  | inputObject _ => .inputObject

/-! ## Repetitions -/

/-- The keys that occur in `seen` or earlier in the list, at each such occurrence. -/
def repetitions {α : Type} [BEq α] : List α → List α → List α
  | _, [] => []
  | seen, x :: xs =>
    if seen.contains x then x :: repetitions seen xs else repetitions (x :: seen) xs

/-- The names that occur more than once, each of them once, by their first occurrences. -/
def repeated (names : List String) : List String :=
  names.eraseDups.filter fun n => 1 < names.count n

/-! ## Facts about a document -/

/-- What the rules need to know about the whole document. -/
structure Facts where
  /-- The defined types with their kinds. -/
  types : List (String × TypeKind)
  /-- The directives that may be used; of two with one name the later one counts. -/
  directives : List DirectiveDef

namespace Facts

def ofDocument (d : Document) : Facts where
  types := d.typeDefinitions.map fun node => (node.name, node.body.kind)
  directives := (standardDirectives ++ d.directiveDefs).reverse

def typeNames (f : Facts) : List String := f.types.map Prod.fst

def defines (f : Facts) (name : String) : Bool := f.typeNames.contains name

/-- The kind of the last definition of a type. -/
def kind? (f : Facts) (name : String) : Option TypeKind :=
  (f.types.reverse.find? (·.1 == name)).map Prod.snd

def directive? (f : Facts) (name : String) : Option DirectiveDef :=
  f.directives.find? (·.name == name)

end Facts

/-- The part of a document in which a type is named. -/
inductive Scope
  | definitions
  | executable
  deriving DecidableEq, Repr

variable (f : Facts)

/-! ## Types, literals and directives -/

/-- In executable parts the standard types are not known. -/
def checkTypeName (scope : Scope) (name : String) : List Violation :=
  if f.defines name then []
  else
    match scope with
    | .definitions =>
      if standardTypeNames.contains name then []
      else [.unknownType name (Suggestion.near name (standardTypeNames ++ f.typeNames))]
    | .executable => [.unknownType name (Suggestion.near name f.typeNames)]

def checkTypeRef (scope : Scope) (t : TypeRef) : List Violation :=
  checkTypeName f scope t.innermost

mutual

/-- Each field of an object value may be given once. -/
def checkLiteral : Literal → List Violation
  | .list items => checkLiterals items
  | .object fields => checkFields [] fields
  | _ => []

def checkLiterals : List Literal → List Violation
  | [] => []
  | v :: vs => checkLiteral v ++ checkLiterals vs

def checkFields (seen : List String) : List (String × Literal) → List Violation
  | [] => []
  | (k, v) :: fs =>
    (if seen.contains k then [.repeatedInputField k] else []) ++ checkLiteral v ++
      checkFields (k :: seen) fs

end

def checkDefault (v : Option Literal) : List Violation := (v.map checkLiteral).getD []

def repeatedArguments (args : List Argument) : List Violation :=
  (repeated (args.map (·.name))).map .repeatedArgument

/-- The arguments that have to be given; of several with one name the last one counts. -/
def DirectiveDef.requiredArguments (d : DirectiveDef) : List (String × TypeRef) :=
  let required := d.arguments.filter fun a => a.type.isNonNull && a.default.isNone
  (required.map (·.name)).eraseDups.filterMap fun n =>
    (required.reverse.find? (·.name == n)).map fun a => (n, a.type)

/-- What is wrong about the use of one directive. -/
def checkDirective (location : Location) (d : Directive) : List Violation :=
  let given := d.arguments.map (·.name)
  let values := d.arguments.flatMap fun a => checkLiteral a.value
  match f.directive? d.name with
  | none => .unknownDirective d.name :: repeatedArguments d.arguments ++ values
  | some known =>
    let names := known.arguments.map (·.name)
    let misplaced :=
      if known.locations.contains location then [] else [.misplacedDirective d.name location]
    let unknown := (given.filter fun a => !names.contains a).map fun a =>
      .unknownArgument a d.name (Suggestion.near a names)
    let missing := (known.requiredArguments.filter fun a => !given.contains a.1).map fun a =>
      .missingArgument d.name a.1 a.2
    misplaced ++ unknown ++ repeatedArguments d.arguments ++ values ++ missing

def checkDirectives (location : Location) (ds : List Directive) : List Violation :=
  ds.flatMap (checkDirective f location)

/-- The used directives that may stand at one place only once. -/
def uniqueDirectives (ds : List Directive) : List String :=
  (ds.map (·.name)).filter fun n =>
    match f.directive? n with
    | some known => !known.repeatable
    | none => false

/-- Repetitions among the directives of one node. -/
def repeatedDirectives (ds : List Directive) : List Violation :=
  (repetitions [] (uniqueDirectives f ds)).map .repeatedDirective

/-! ## Parts of definitions -/

def checkInputDef (location : Location) (d : InputDef) : List Violation :=
  repeatedDirectives f d.directives ++ checkTypeRef f .definitions d.type ++
    checkDefault d.default ++ checkDirectives f location d.directives

def checkFieldDef (d : FieldDef) : List Violation :=
  repeatedDirectives f d.directives ++
    d.arguments.flatMap (checkInputDef f .argumentDefinition) ++
    checkTypeRef f .definitions d.type ++ checkDirectives f .fieldDefinition d.directives

def checkValueDef (d : ValueDef) : List Violation :=
  repeatedDirectives f d.directives ++ checkDirectives f .enumValue d.directives

def Body.location : Body → Location
  | scalar => .scalar
  | object _ _ => .object
  | interface _ _ => .interface
  | union _ => .union
  | enum _ => .enum
  | inputObject _ => .inputObject

/-- What is wrong about the parts of a type node. The fields of an extension of an input object
count as arguments. -/
def checkTypeParts (node : TypeNode) : List Violation :=
  let ds := checkDirectives f node.body.location node.directives
  match node.body with
  | .scalar => ds
  | .object is fields | .interface is fields =>
    is.flatMap (checkTypeName f .definitions) ++ ds ++ fields.flatMap (checkFieldDef f)
  | .union members => ds ++ members.flatMap (checkTypeName f .definitions)
  | .enum values => ds ++ values.flatMap (checkValueDef f)
  | .inputObject fields =>
    let location := if node.isExtension then .argumentDefinition else .inputFieldDefinition
    ds ++ fields.flatMap (checkInputDef f location)

mutual

def checkSelection : Selection → List Violation
  | .field arguments directives selections =>
    repeatedDirectives f directives ++ repeatedArguments arguments ++
      arguments.flatMap (fun a => checkLiteral a.value) ++ checkDirectives f .field directives ++
      checkSelections selections
  | .spread directives =>
    repeatedDirectives f directives ++ checkDirectives f .fragmentSpread directives
  | .inline condition directives selections =>
    repeatedDirectives f directives ++
      (condition.map (checkTypeName f .executable)).getD [] ++
      checkDirectives f .inlineFragment directives ++ checkSelections selections

def checkSelections : List Selection → List Violation
  | [] => []
  | s :: ss => checkSelection s ++ checkSelections ss

end

def checkVariableDef (d : VariableDef) : List Violation :=
  repeatedDirectives f d.directives ++ checkTypeRef f .executable d.type ++
    checkDefault d.default ++ checkDirectives f .variableDefinition d.directives

def OperationKind.location : OperationKind → Location
  | query => .query
  | mutation => .mutation
  | subscription => .subscription

/-- What is wrong about the parts of a statement. -/
def checkParts : Statement → List Violation
  | .type node => checkTypeParts f node
  | .schema node =>
    checkDirectives f .schema node.directives ++
      node.operations.flatMap fun o => checkTypeName f .definitions o.2
  | .directive node => node.arguments.flatMap (checkInputDef f .argumentDefinition)
  | .operation kind variableDefs directives selections =>
    variableDefs.flatMap (checkVariableDef f) ++ checkDirectives f kind.location directives ++
      checkSelections f selections
  | .fragment condition directives selections =>
    checkTypeName f .executable condition ++
      checkDirectives f .fragmentDefinition directives ++ checkSelections f selections

/-! ## Repeated names -/

/-- The names that the definitions walked so far have used. -/
structure Seen where
  schema : Bool := false
  operations : List OperationKind := []
  types : List String := []
  directives : List String := []
  /-- Values of enums and fields of other types, with the names of their types. -/
  enumValues : List (String × String) := []
  fields : List (String × String) := []
  schemaDirectives : List String := []
  typeDirectives : List (String × String) := []

/-- The values and the fields that a type node declares. -/
def TypeNode.valueNames (node : TypeNode) : List (String × String) :=
  match node.body with
  | .enum values => values.map fun v => (node.name, v.name)
  | _ => []

def TypeNode.fieldNames (node : TypeNode) : List (String × String) :=
  match node.body with
  | .object _ fields | .interface _ fields => fields.map fun d => (node.name, d.name)
  | .inputObject fields => fields.map fun d => (node.name, d.name)
  | _ => []

/-- The fields with arguments that a type node declares. -/
def TypeNode.outputFields (node : TypeNode) : List FieldDef :=
  match node.body with
  | .object _ fields | .interface _ fields => fields
  | _ => []

def checkArgumentDefs (owner : String) (arguments : List InputDef) : List Violation :=
  (repeated (arguments.map (·.name))).map (.repeatedArgumentDef owner)

def checkExtension (node : TypeNode) : List Violation :=
  if !node.isExtension then []
  else
    match f.kind? node.name with
    | some kind =>
      if kind = node.body.kind then [] else [.wrongExtension node.body.kind node.name]
    | none => [.extendsUndefined node.name (Suggestion.near node.name f.typeNames)]

/-- What is wrong about a type node as a whole, and the names used after it. -/
def enterType (seen : Seen) (node : TypeNode) : List Violation × Seen :=
  let directives := (uniqueDirectives f node.directives).map fun n => (node.name, n)
  let violations :=
    (if !node.isExtension && seen.types.contains node.name then [.repeatedType node.name]
      else []) ++
    (repetitions seen.enumValues node.valueNames).map (fun v => .repeatedEnumValue v.1 v.2) ++
    (repetitions seen.fields node.fieldNames).map (fun d => .repeatedField d.1 d.2) ++
    node.outputFields.flatMap (fun d => checkArgumentDefs s!"{node.name}.{d.name}" d.arguments) ++
    (repetitions seen.typeDirectives directives).map (fun d => .repeatedDirective d.2) ++
    checkExtension f node
  (violations,
    { seen with
      types := if node.isExtension then seen.types else node.name :: seen.types
      enumValues := node.valueNames ++ seen.enumValues
      fields := node.fieldNames ++ seen.fields
      typeDirectives := directives ++ seen.typeDirectives })

def enterSchema (seen : Seen) (node : SchemaNode) : List Violation × Seen :=
  let directives := uniqueDirectives f node.directives
  let kinds := node.operations.map Prod.fst
  let violations :=
    (if !node.isExtension && seen.schema then [.secondSchema] else []) ++
    (repetitions seen.operations kinds).map .repeatedOperation ++
    (repetitions seen.schemaDirectives directives).map .repeatedDirective
  (violations,
    { seen with
      schema := seen.schema || !node.isExtension
      operations := kinds ++ seen.operations
      schemaDirectives := directives ++ seen.schemaDirectives })

def enterDirective (seen : Seen) (node : DirectiveDef) : List Violation × Seen :=
  (checkArgumentDefs s!"@{node.name}" node.arguments ++
    (if seen.directives.contains node.name then [.repeatedDirectiveDef node.name] else []),
    { seen with directives := node.name :: seen.directives })

/-- What is wrong about a statement as a whole, and the names used after it. -/
def enterStatement (seen : Seen) : Statement → List Violation × Seen
  | .type node => enterType f seen node
  | .schema node => enterSchema f seen node
  | .directive node => enterDirective seen node
  | .operation _ _ directives _ => (repeatedDirectives f directives, seen)
  | .fragment _ directives _ => (repeatedDirectives f directives, seen)

def walk (seen : Seen) : Document → List Violation
  | [] => []
  | d :: ds =>
    let (violations, seen) := enterStatement f seen d
    violations ++ checkParts f d ++ walk seen ds

/-- The violations of a document, in the order in which the walk meets them. -/
def Document.violations (d : Document) : List Violation := walk (Facts.ofDocument d) {} d

end SdlPhp.Sdl
