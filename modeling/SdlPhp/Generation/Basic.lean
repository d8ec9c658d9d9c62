import SdlPhp.Php.Fragment
import SdlPhp.Php.SourceFile

/-!
# Generation

A run over a schema: it gives the text of a file together with warnings, or it fails as a whole at
the first definition that cannot be written.
-/

namespace SdlPhp

/-- What a run gives. -/
structure Generated where
  code : String
  warnings : List String
  definitionCount : Nat
  deriving DecidableEq, Repr

/-- A generator: its options, and whether it finds the directory with the templates. -/
structure Generator where
  options : Options
  hasTemplates : Bool := true

namespace Generator

open Php

variable (g : Generator)

def typeMap (r : Registry) : Except Misuse TypeMap := TypeMap.ofOptions r g.options

/-! ## Warnings -/

/-- The warning about a definition without content. -/
def emptyWarning? : Definition → Option String
  | .enum name values _ => if values.isEmpty then some s!"Enum '{name}' has no values" else none
  | .input name fields _ => if fields.isEmpty then some s!"Type '{name}' has no fields" else none
  | .object name fields _ => if fields.isEmpty then some s!"Type '{name}' has no fields" else none

def unmappedWarning (scalar : String) : String :=
  s!"Scalar '{scalar}' has no PHP mapping - using {fallbackName}"

def unknownEnumWarning (enum : String) : String :=
  s!"enum_values configured for unknown enum '{enum}'"

/-- The overrides for names that the schema does not know. -/
def unknownEnums (r : Registry) : List String :=
  g.options.enumNames.filter (!r.contains ·)

/-- All that a run warns about: empty definitions, options, scalars, overrides. -/
def warnings (s : Schema) : Except Misuse (List String) := do
  let ofOptions ← g.options.warnings
  let m ← g.typeMap s.registry
  return s.definitions.filterMap emptyWarning? ++ ofOptions ++
    m.unmappedScalars.map unmappedWarning ++ (g.unknownEnums s.registry).map unknownEnumWarning

/-! ## Code -/

/-- The text of a single definition. -/
def definition (s : Schema) (d : Definition) : Except FragmentFault (Option String) := do
  (← (g.typeMap s.registry).mapError .misuse).fragment d

/-- The texts of the definitions, in their order. -/
def fragments (s : Schema) : Except FragmentFault (List String) :=
  (s.definitions.mapM (g.definition s)).map (List.filterMap id)

/-- The file around a body. -/
def file (body : String) : Except Misuse String :=
  (SourceFile.ofBody g.options body).map (·.text g.hasTemplates)

def code (s : Schema) : Except FragmentFault String := do
  let texts ← g.fragments s
  (g.file ("\n".intercalate texts)).mapError .misuse

/-- A run over a schema. The namespace is looked at first, and the warnings before the code. -/
def run (s : Schema) : Except FragmentFault Generated := do
  let _ ← (resolveNamespace g.options).mapError .misuse
  let warnings ← (g.warnings s).mapError .misuse
  return ⟨← g.code s, warnings, s.definitions.length⟩

end Generator

/-- The message of a failed run. -/
def failureMessage (fault : Php.FragmentFault) : String :=
  "Code generation failed: " ++ fault.message

end SdlPhp
