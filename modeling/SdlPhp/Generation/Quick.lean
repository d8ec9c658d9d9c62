import SdlPhp.Generation.Basic
import SdlPhp.Options.Layers
import SdlPhp.Schema.Build

/-!
# Generation from text

A run over a schema that is given as text, with overrides of the default options. The text is read
before the overrides are looked at.
-/

namespace SdlPhp

/-- Why there is no run at all. -/
inductive InputFault
  | schema (fault : SchemaFault)
  | option (fault : OptionFault)
  deriving Repr

def InputFault.message : InputFault → String
  | schema fault => fault.message
  | option fault => fault.message

/-- Why a quick run gives no code. -/
inductive QuickFault
  /-- An option takes the place of the text. -/
  | repeatedText
  | input (fault : InputFault)
  | generation (fault : Php.FragmentFault)
  deriving Repr

def QuickFault.message : QuickFault → String
  | repeatedText => "quick_generate() got multiple values for argument 'sdl'"
  | input fault => fault.message
  | generation fault => failureMessage fault

/-- The run over the text of a schema with these options. -/
def generateWith (sdl : String) (o : Options) :
    Except InputFault (Except Php.FragmentFault Generated) := do
  let s ← (Schema.parse sdl).mapError .schema
  return Generator.run { options := o } s

/-- The run over the text of a schema with overrides of the defaults. -/
def generate (sdl : String) (overrides : Layer := []) :
    Except InputFault (Except Php.FragmentFault Generated) := do
  let s ← (Schema.parse sdl).mapError .schema
  let o ← (Options.ofLayers [Options.defaultLayer, overrides]).mapError .option
  return Generator.run { options := o } s

/-- The code for the text of a schema. The text itself has the key `sdl`, which is free for no
option. -/
def quickCode (sdl : String) (overrides : Layer := []) : Except QuickFault String := do
  if Entries.has overrides "sdl" then throw .repeatedText
  match ← (generate sdl overrides).mapError .input with
  | .ok generated => return generated.code
  | .error fault => throw (.generation fault)

end SdlPhp
