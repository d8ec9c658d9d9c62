import SdlPhp.Generation.Basic

/-!
# Results

What is told of a run: the code with its warnings and the facts about it, or that the run failed and
why. A failed run leaves nothing behind, neither a part of the code nor warnings. A fault that breaks
a run off gives no result.
-/

namespace SdlPhp

open Php

/-- The facts about a run. -/
structure Metadata where
  language : String
  fileExtension : String
  definitionCount : Nat
  warningCount : Nat
  deriving DecidableEq, Repr

structure RunResult where
  code : String
  warnings : List String := []
  metadata : Option Metadata := none
  success : Bool := true
  errorMessage : Option String := none
  exception : Option TypeFault := none
  deriving DecidableEq, Repr

namespace RunResult

def succeeded (g : Generated) : RunResult where
  code := g.code
  warnings := g.warnings
  metadata := some
    { language := SourceFile.language
      fileExtension := SourceFile.extension
      definitionCount := g.definitionCount
      warningCount := g.warnings.length }

def failed (fault : TypeFault) : RunResult where
  code := ""
  success := false
  errorMessage := some (failureMessage (.type fault))
  exception := some fault

/-- The result of a run, unless a fault breaks it off. -/
def ofRun : Except FragmentFault Generated → Except FragmentFault RunResult
  | .ok g => .ok (succeeded g)
  | .error (.type fault) => .ok (failed fault)
  | .error fault => .error fault

end RunResult

/-- Generates code for a schema. -/
def Generator.generate (g : Generator) (s : Schema) : Except FragmentFault RunResult :=
  RunResult.ofRun (g.run s)

end SdlPhp
