/-!
# Logging

The names of loggers, all of which stand under one root, and the level and handlers of the root as
they are configured by commands.
-/

namespace SdlPhp

/-- The levels that are used. -/
inductive LogLevel
  | debug
  | warning
  deriving DecidableEq, Repr

def LogLevel.text : LogLevel → String
  | debug => "DEBUG"
  | warning => "WARNING"

namespace Logging

def rootName : String := "php_codegen"

/-- The full name of a logger; names under the root are full already. -/
def fullName (name : String) : String :=
  if name = rootName || (rootName ++ ".").toList.isPrefixOf name.toList then name
  else rootName ++ "." ++ name

end Logging

/-- The root logger; its level is unknown as long as it has not been configured. -/
structure RootLogger where
  level : Option LogLevel := none
  handlers : Nat := 0
  deriving DecidableEq, Repr

namespace RootLogger

/-- Sets the level; the first time, it adds the handler. -/
def configure (l : RootLogger) (verbose : Bool) : RootLogger where
  level := some (if verbose then .debug else .warning)
  handlers := if l.level.isSome then l.handlers else l.handlers + 1

theorem handlers_configure_configure (l : RootLogger) (v w : Bool) :
    ((l.configure v).configure w).handlers = (l.configure v).handlers := rfl

end RootLogger

end SdlPhp
