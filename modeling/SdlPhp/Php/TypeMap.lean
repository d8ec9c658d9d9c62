import SdlPhp.Options.Basic
import SdlPhp.Schema.Definition

/-!
# Types

How the types of a schema are written in a file. Scalars go through a table, input objects and enums
keep their names in the case of the options, and any other type is an object. Non-null modifiers
change nothing; a list anywhere makes it the type of lists.
-/

namespace SdlPhp

/-- The name of a type in a file: in the case of the options, behind their prefix. -/
def Options.typeName (o : Options) (name : String) : Except ConventionFault String :=
  o.nameCase.map fun case => o.typesPrefix.text ++ Naming.convert case name

namespace Php

/-- A type as a file shows it. -/
structure PhpType where
  /-- What the innermost name stands for. -/
  base : Setting String
  /-- What is written, with lists in view. -/
  name : Setting String
  isScalar : Bool := false
  isArray : Bool := false
  isEnum : Bool := false
  deriving Repr

/-- Why a type cannot be written. -/
inductive TypeFault
  | unknownType (name : String)
  | convention (fault : ConventionFault)
  deriving DecidableEq, Repr

def TypeFault.message : TypeFault → String
  | unknownType name => s!"Type '{name}' is not defined in the schema"
  | convention fault => fault.message

/-- What is written for all that has no type of its own. -/
def fallbackName : String := "object"

/-- The type of all that has no type of its own. -/
def fallbackType : PhpType :=
  { base := .value fallbackName, name := .value fallbackName, isScalar := true }

/-- The scalars that have a type of their own. -/
def builtinScalars : Entries String :=
  [("String", "string"), ("Int", "int"), ("Float", "float"), ("Boolean", "bool")]

/-- The built-in table with the scalars of the options put over it. -/
def scalarTypes (o : Options) : Except Misuse (KeyTable (Setting String)) :=
  let builtin := KeyTable.ofEntries (builtinScalars.mapValues .value)
  match o.scalars with
  | .value t => .ok (builtin.update (KeyTable.ofEntries (t.mapValues .value)))
  | .other v => v.entries.map fun t => builtin.update (t.mapValues .ofJson)

/-- The types of a schema under options. Names of types may be written by a rule of its own. -/
structure TypeMap where
  registry : Registry
  options : Options
  scalars : Entries (Setting String)
  typeName : String → Except ConventionFault String := options.typeName

namespace TypeMap

def ofOptions (registry : Registry) (options : Options) : Except Misuse TypeMap :=
  (scalarTypes options).map fun types => { registry, options, scalars := types.textEntries }

variable (m : TypeMap)

/-- The name of a type that is no input object. -/
def name (source : String) : Except TypeFault String := (m.typeName source).mapError .convention

/-- The name of an input object, which ends in `Input`. -/
def inputName (source : String) : Except TypeFault String :=
  (m.name source).map (Naming.withSuffix · "Input")

/-- The type of a scalar; null in the table stands for no type. -/
def scalarType (source : String) : PhpType :=
  match m.scalars.get? source with
  | none | some (.other .null) => fallbackType
  | some type => { base := type, name := type, isScalar := true }

/-- A type whose name is written as it is. -/
def named (name : String) (isEnum : Bool) : PhpType :=
  { base := .value name, name := .value name, isEnum }

/-- The type that a name stands for. -/
def baseType (source : String) : Except TypeFault PhpType :=
  match m.registry.kind? source with
  | none => .error (.unknownType source)
  | some .scalar => .ok (m.scalarType source)
  | some .inputObject => (m.inputName source).map (named · false)
  | some .enum => (m.name source).map (named · true)
  | some _ => .ok fallbackType

/-- The type of a reference. -/
def resolve (t : TypeRef) : Except TypeFault PhpType :=
  (m.baseType t.innermost).map fun p =>
    if t.hasList then { p with name := m.options.listType, isArray := true } else p

/-- The scalars of the schema that have no entry in the table. -/
def unmappedScalars : List String := m.registry.scalars.filter (!m.scalars.has ·)

/-- The scalars of the schema with their types. -/
def scalarTable : Entries (Setting String) :=
  m.registry.scalars.map fun n => (n, m.scalars.getD n fallbackType.name)

theorem scalarType_name {source : String} (h : m.scalars.get? source ≠ some (.other .null)) :
    (m.scalarType source).name = m.scalars.getD source fallbackType.name := by
  unfold scalarType Entries.getD
  split
  · simp_all
  · contradiction
  · simp_all

end TypeMap

end Php

end SdlPhp
