import SdlPhp.Schema.Fault
import SdlPhp.Sdl.LiteralText

/-!
# Resolving the parts of types

The parts of a type are resolved against all types of a document: the types of fields and arguments
must be of a kind that can stand there, the standard directives on them must have fitting arguments,
and defaults are brought to their types. A literal that is no value of its type is no fault and
counts as no default. For an object literal the fields of its input object are resolved first, with
their own defaults.
-/

namespace SdlPhp

open Sdl (Body Directive DirectiveDef FieldDef InputDef Literal TypeNode)

def findType? (types : List TypeNode) (name : String) : Option TypeNode :=
  types.find? (·.name == name)

def kindOf? (types : List TypeNode) (name : String) : Option TypeKind :=
  (findType? types name).map (·.body.kind)

def refuse (fault : Option BuildFault) : Except BuildFault Unit :=
  match fault with
  | some fault => .error fault
  | none => .ok ()

/-! ## Arguments of standard directives -/

/-- What is wrong with the arguments of a standard directive, whose types are all texts. -/
def directiveFault (definition : DirectiveDef) (use : Directive) : Option BuildFault :=
  definition.arguments.findSome? fun d =>
    match use.arguments.find? (·.name == d.name) with
    | none =>
      if d.default.isNone && d.type.isNonNull then some (.missingArgument d.name d.type) else none
    | some ⟨_, .null, _⟩ => if d.type.isNonNull then some (.nullArgument d.name d.type) else none
    | some ⟨_, .string _ _, _⟩ => none
    | some a => some (.invalidArgument d.name a.value.text a.left)

def useFault (definition : DirectiveDef) (ds : List Directive) : Option BuildFault :=
  (ds.find? (·.name == definition.name)).bind (directiveFault definition)

def deprecationFault (ds : List Directive) : Option BuildFault :=
  useFault Sdl.deprecatedDirective ds

/-! ## Kinds of referenced types -/

variable (types : List TypeNode)

def isInputRef (t : TypeRef) : Bool :=
  match kindOf? types t.innermost with
  | some kind => kind.isInput
  | none => true

def isOutputRef (t : TypeRef) : Bool :=
  match kindOf? types t.innermost with
  | some kind => kind.isOutput
  | none => true

/-! ## Values of types -/

/-- The digits write an integer of 32 bits. -/
def isInt32Text (digits : String) : Bool :=
  match digits.toInt? with
  | some n => -Int.pow 2 31 ≤ n && n < Int.pow 2 31
  | none => false

/-- A scalar has the literal as a value; other scalars than the standard ones take any literal. -/
def scalarAdmits (name : String) : Literal → Bool
  | .int digits => if name = "Int" then isInt32Text digits else name ≠ "String" && name ≠ "Boolean"
  | .float _ => name = "Float" || !Sdl.standardScalars.contains name
  | .string _ _ => name = "String" || name = "ID" || !Sdl.standardScalars.contains name
  | .bool _ => name = "Boolean" || !Sdl.standardScalars.contains name
  | _ => !Sdl.standardScalars.contains name

/-- A literal is, or is not, a value of a type, unless a fault comes in between. -/
abbrev Verdict := Except BuildFault Bool

/-- A literal as a value of a named type, apart from null and the values of input objects. -/
def namedAdmits (name : String) (v : Literal) : Verdict :=
  match findType? types name with
  | none => .ok true
  | some node =>
    match node.body with
    | .scalar => .ok (scalarAdmits name v)
    | .enum values =>
      match v with
      | .enum value => .ok (values.any (·.name == value))
      | _ => .ok false
    | .inputObject _ => .ok false
    | _ => .error (.defaultType name)

/-- The fields of an input object, each with whether it has a default. -/
abbrev InputFields := List (InputDef × Bool)

/-- An object literal, given by what its entries are as values, gives every field a value that needs
one. The fields are looked at in their order and the first that has no value decides. -/
def admitsEntries (entries : List (String × (TypeRef → Verdict))) : InputFields → Verdict
  | [] => .ok true
  | (d, hasDefault) :: fields =>
    match entries.find? (·.1 == d.name) with
    | some (_, verdict) => do
      if ← verdict d.type then admitsEntries entries fields else return false
    | none =>
      if hasDefault || !d.type.isNonNull then admitsEntries entries fields else .ok false

section

variable (inputFields : String → Except BuildFault InputFields)

mutual

/-- The literal is a value of the type. Where a list is asked for, any other literal stands for a
list of it alone. -/
def admits : Literal → TypeRef → Verdict
  | .null, t => .ok !t.isNonNull
  | .list items, .list t => admitsAll items t
  | .list items, .nonNull (.list t) => admitsAll items t
  | .list items, t => namedAdmits types t.innermost (.list items)
  | .object entries, t => do
    if kindOf? types t.innermost = some .inputObject then
      admitsEntries (entryVerdicts entries) (← inputFields t.innermost)
    else namedAdmits types t.innermost (.object entries)
  | v, t => namedAdmits types t.innermost v

def admitsAll : List Literal → TypeRef → Verdict
  | [], _ => .ok true
  | v :: vs, t => do if ← admits v t then admitsAll vs t else return false

def entryVerdicts : List (String × Literal) → List (String × (TypeRef → Verdict))
  | [] => []
  | (k, v) :: entries => (k, admits v) :: entryVerdicts entries

end

/-! ## Fields -/

/-- Whether an argument or input field has a default; a fault if something is wrong with it, where
`kindFault` reports its type. -/
def resolveInput (kindFault : BuildFault) (d : InputDef) : Verdict := do
  let hasDefault ← match d.default with
    | some v => admits types inputFields v d.type
    | none => .ok false
  refuse (deprecationFault d.directives)
  refuse (if isInputRef types d.type then none else some kindFault)
  return hasDefault

def resolveField (d : FieldDef) : Except BuildFault Unit := do
  d.arguments.forM fun a => do let _ ← resolveInput types inputFields .argumentType a
  refuse (deprecationFault d.directives)
  refuse (if isOutputRef types d.type then none else some .fieldType)

end

/-- The fields of an input object. The fuel bounds how many input objects may wait for the fields of
one another. -/
def inputFieldsWithin : Nat → String → Except BuildFault InputFields
  | 0, _ => .error .endlessDefault
  | fuel + 1, name =>
    match (findType? types name).map (·.body) with
    | some (Body.inputObject fields) =>
      (fields.mapM fun d => do
        return (d, ← resolveInput types (inputFieldsWithin fuel) .inputFieldType d)).mapError
        (.inFields name)
    | _ => .ok []

/-- The fields of an input object. No more input objects than there are types can wait for one
another unless one of them waits for itself. -/
def inputFields (name : String) : Except BuildFault InputFields :=
  inputFieldsWithin types (types.length + 1) name

/-- Refuses a type with a field that cannot be resolved. -/
def resolveFields (node : TypeNode) : Except BuildFault Unit :=
  match node.body with
  | .object _ fields | .interface _ fields =>
    (fields.forM (resolveField types (inputFields types))).mapError (.inFields node.name)
  | .inputObject _ => do let _ ← inputFields types node.name
  | _ => .ok ()

/-! ## Other parts -/

def interfacesFault (node : TypeNode) : Option BuildFault :=
  match node.body with
  | .object is _ | .interface is _ =>
    if is.all fun i => kindOf? types i == some .interface then none
    else some (.interfaces node.name)
  | _ => none

def membersFault (node : TypeNode) : Option BuildFault :=
  match node.body with
  | .union members =>
    if members.all fun m => kindOf? types m == some .object then none
    else some (.members node.name)
  | _ => none

/-- What is wrong with a type by itself: with the values of an enum or the scalar's directives. -/
def leafFault (node : TypeNode) : Option BuildFault :=
  match node.body with
  | .enum values => values.findSome? fun v => deprecationFault v.directives
  | .scalar => useFault Sdl.specifiedByDirective node.directives
  | _ => none

end SdlPhp
