import SdlPhp.Schema.Definition
import SdlPhp.Schema.Resolution

/-!
# Building a schema

The schema that a text describes. Extensions are merged into the types that they extend, a
definition with the name of a standard type gives way to it, and the types are collected in the
order in which they refer to each other, starting from the defined ones. A reference to a type of a
kind that cannot stand in its place is found when the referring type is collected.
-/

namespace SdlPhp

open Sdl (Body DirectiveDef Document FieldDef InputDef TypeNode)

/-! ## The types of a document -/

/-- The body of a type together with that of an extension of it. -/
def Sdl.Body.merge : Body → Body → Body
  | .object is fs, .object js gs => .object (is ++ js) (fs ++ gs)
  | .interface is fs, .interface js gs => .interface (is ++ js) (fs ++ gs)
  | .union ms, .union ns => .union (ms ++ ns)
  | .enum vs, .enum ws => .enum (vs ++ ws)
  | .inputObject fs, .inputObject gs => .inputObject (fs ++ gs)
  | body, _ => body

/-- The types that a document defines, with their extensions, or standard types in their places. -/
def definedTypes (d : Document) : List TypeNode :=
  let extensions := d.typeNodes.filter (·.isExtension)
  d.typeDefinitions.map fun node =>
    match Sdl.standardTypes.find? (·.name == node.name) with
    | some standard => standard
    | none =>
      { node with
        body := (extensions.filter (·.name == node.name)).foldl (·.merge ·.body) node.body }

/-- The standard types and the types of the document. -/
def allTypes (d : Document) : List TypeNode := Sdl.standardTypes ++ definedTypes d

/-! ## Collecting types -/

variable (types : List TypeNode)

/-- The types that the fields of a type name, each field's type before those of its arguments. -/
def fieldReferences (node : TypeNode) : List String :=
  match node.body with
  | .object _ fields | .interface _ fields =>
    fields.flatMap fun d => d.type.innermost :: d.arguments.map (·.type.innermost)
  | .inputObject fields => fields.map (·.type.innermost)
  | _ => []

def interfaceReferences (node : TypeNode) : List String :=
  match node.body with
  | .object is _ | .interface is _ => is
  | _ => []

def memberReferences (node : TypeNode) : List String :=
  match node.body with
  | .union members => members
  | _ => []

/-- Adds a type that is not yet collected, and then the types to which it refers. The fuel bounds
the length of a chain of new types. -/
def collect : Nat → List String → String → Except BuildFault (List String)
  | 0, collected, _ => .ok collected
  | fuel + 1, collected, name =>
    if collected.contains name then .ok collected
    else
      match findType? types name with
      | none => .ok (collected ++ [name])
      | some node => do
        refuse (membersFault types node)
        let collected ← (memberReferences node).foldlM (collect fuel) (collected ++ [name])
        refuse (interfacesFault types node)
        let collected ← (interfaceReferences node).foldlM (collect fuel) collected
        resolveFields types node
        (fieldReferences node).foldlM (collect fuel) collected

/-- Takes a defined type out of its place and collects it anew. -/
def recollect (collected : List String) (name : String) : Except BuildFault (List String) :=
  collect types (types.length + 1) (collected.erase name) name

/-- The root types: those that the schema definition and its extensions name, or else the types
with the usual names. -/
def rootTypes (d : Document) : List String :=
  let named := d.schemaNodes.filter (!·.isExtension) ++ d.schemaNodes.filter (·.isExtension)
  let explicit := named.flatMap (·.operations)
  let usual := [(Sdl.OperationKind.query, "Query"), (.mutation, "Mutation"),
    (.subscription, "Subscription")]
  let defined := (d.typeDefinitions.map (·.name))
  let hasDefinition := d.schemaNodes.any (!·.isExtension)
  usual.filterMap fun (kind, name) =>
    if !hasDefinition && defined.contains name then some name
    else (explicit.reverse.find? (·.1 == kind)).map Prod.snd

/-- The directives of the schema: the defined ones and the standard ones that are not redefined. -/
def schemaDirectives (d : Document) : List DirectiveDef :=
  let defined := d.directiveDefs
  defined ++ Sdl.standardDirectives.filter fun s => !(defined.map (·.name)).contains s.name

/-- The names of all types of the schema in their order. -/
def collectAll (d : Document) : Except BuildFault (List String) := do
  let types := allTypes d
  refuse ((definedTypes d).findSome? leafFault)
  d.directiveDefs.forM fun x => x.arguments.forM fun a => do
    let _ ← resolveInput types (inputFields types) .argumentType a
  let names := (definedTypes d).map (·.name)
  let collected ← names.foldlM (recollect types) names
  let arguments := (schemaDirectives d).flatMap fun x => x.arguments.map (·.type.innermost)
  (rootTypes d ++ arguments ++ ["__Schema"]).foldlM (collect types (types.length + 1)) collected

/-! ## The schema -/

def inputValue (d : InputDef) : InputValue := ⟨d.name, d.type, d.description⟩

def objectField (d : FieldDef) : ObjectField :=
  ⟨d.name, d.type, d.arguments.map inputValue, d.description⟩

/-- The definition of a type; scalars, interfaces and unions have none. -/
def definitionOf? (node : TypeNode) : Option Definition :=
  match node.body with
  | .enum values =>
    some (.enum node.name (values.map fun v => ⟨v.name, v.description⟩) node.description)
  | .inputObject fields => some (.input node.name (fields.map inputValue) node.description)
  | .object _ fields => some (.object node.name (fields.map objectField) node.description)
  | _ => none

namespace Schema

/-- The names of the types that a document defines or extends, by first occurrence. -/
def orderedNames (d : Document) : List String := (d.typeNodes.map (·.name)).eraseDups

/-- The schema of a valid document. -/
def build (d : Document) : Except BuildFault Schema := do
  let types := allTypes d
  let names ← collectAll d
  let kinds := names.filterMap fun n => (kindOf? types n).map (n, ·)
  let definitions := (orderedNames d).filterMap fun n => (findType? types n).bind definitionOf?
  return ⟨definitions, ⟨kinds⟩⟩

/-- The schema that a text describes. -/
def parse (sdl : String) : Except SchemaFault Schema := do
  let d ← (Sdl.parseDocument sdl).mapError .syntactic
  match d.violations with
  | [] => (build d).mapError (.unbuildable sdl)
  | violations => throw (.invalid violations)

end Schema

end SdlPhp
