import SdlPhp.Delivery.Arguments
import SdlPhp.Delivery.Markup
import SdlPhp.Options.File
import SdlPhp.Php.Fragment
import SdlPhp.Schema.Source

/-!
# Options of a command

The options of a command come from the defaults, from a file if one is named, and from flags, which
count most. Imports of flags follow those of the file; scalars and literals of enum values are added
to those of the file.
-/

namespace SdlPhp

/-- Why a command fails. -/
inductive CommandFault
  | options (fault : OptionsFault)
  /-- An item that is no assignment of a value to a key. -/
  | assignment (f : Flag) (item : String)
  /-- The empty list in the place of an assignment. -/
  | emptyItem (f : Flag)
  /-- A key that names no value of an enum. -/
  | enumKey (key : String)
  | loading (fault : LoadFault)
  /-- A fault that breaks off the generation. -/
  | generation (fault : Php.FragmentFault)
  /-- The file cannot be written; the file system refused the second path. -/
  | writing (path refused : Path) (fault : SystemFault)
  /-- The code cannot be written, as it holds half a surrogate pair, or the output does not take
  it. -/
  | unencodable
  | markup (fault : Markup.Fault)
  deriving Repr

def CommandFault.message : CommandFault → String
  | options fault => "Configuration error: " ++ fault.message
  | assignment f item => s!"{f.label} expects KEY=VALUE, got '{item}'"
  | emptyItem _ => "'list' object has no attribute 'partition'"
  | enumKey key => s!"{Flag.enumValue.label} expects ENUM.VALUE=LITERAL, got '{key}'"
  | loading fault => fault.message
  | generation fault => fault.message
  | writing path refused fault =>
    if fault.isNoPath then fault.message refused
    else s!"Failed to write to {path.text}: {fault.message refused}"
  | unencodable => "surrogates not allowed"
  | markup fault => fault.message

namespace Arguments

/-- The key and the value around the first equals sign, without outer blanks; both have to hold
something. -/
def assignment? (item : String) : Option (String × String) :=
  match Text.cutFirst '=' item.toList with
  | (_, none) => none
  | (key, some value) =>
    if Text.allBlank key || Text.allBlank value then none
    else some (String.ofList (Text.trim key), String.ofList (Text.trim value))

/-- The assignments of items, of which the last with a key counts. -/
def assignments (f : Flag) (items : List (Given String)) : Except CommandFault (Entries String) :=
  items.foldlM
    (fun t item =>
      match item with
      | .emptyList => .error (.emptyItem f)
      | .value text =>
        match assignment? text with
        | some (key, value) => .ok (Entries.put t key value)
        | none => .error (.assignment f text))
    []

/-- The enum and the value that a key names around its first dot; the value has to be there. -/
def enumKey? (key : String) : Option (String × String) :=
  match Text.cutFirst '.' key.toList with
  | (enum, some (c :: cs)) => some (String.ofList enum, String.ofList (c :: cs))
  | _ => none

def putLiteral (t : Entries (Entries String)) (enum value literal : String) :
    Entries (Entries String) :=
  t.put enum (((t.get? enum).getD []).put value literal)

/-- The overrides with literals added, given as assignments to keys. -/
def putLiterals (t : Entries (Entries String)) (literals : Entries String) :
    Except CommandFault (Entries (Entries String)) :=
  literals.foldlM
    (fun t (key, literal) =>
      match enumKey? key with
      | some (enum, value) => .ok (putLiteral t enum value literal)
      | none => .error (.enumKey key))
    t

/-- A value that is given and not empty. -/
def nonEmpty (s : Option String) : Option String := s.filter (!·.isEmpty)

variable (a : Arguments)

/-- The imports of the flags behind those of the file. An empty list in the place of an import stays
in its place. -/
def allImports (imports : Setting (List String)) : Setting (List String) :=
  match imports, a.imports.mapM Given.value? with
  | .value names, some more => .value (names ++ more)
  | .value names, none => .other (.list (names.map .text ++ a.imports.map (·.setting.json)))
  | imports, _ => imports

/-- The options with the flags put over them. -/
def apply (base : Options) : Except CommandFault Options := do
  let scalars ← assignments .scalar a.scalars
  let literals ← assignments .enumValue a.enumValues
  let enumValues ← (match base.enumValues with
    | .value t => (putLiterals t literals).map .value
    | other => pure other)
  return { base with
    outputFile := ((nonEmpty a.output).map (.value ∘ some)).getD base.outputFile
    phpNamespace := ((nonEmpty a.phpNamespace).map (.value ∘ some)).getD base.phpNamespace
    imports := a.allImports base.imports
    openTag := if a.noOpenTag then .value false else base.openTag
    indentSize := (a.indentSize.map Given.setting).getD base.indentSize
    useTabs := if a.useTabs then .value true else base.useTabs
    addComments := if a.noComments then .value false else base.addComments
    namingConvention := ((nonEmpty a.namingConvention).map .value).getD base.namingConvention
    typesPrefix := (a.typesPrefix.map Given.setting).getD base.typesPrefix
    scalars := base.scalars.map (·.update scalars)
    listType := ((nonEmpty a.listType).map .value).getD base.listType
    enumValues := enumValues
    membersPrefix := (a.membersPrefix.map Given.setting).getD base.membersPrefix }

/-- The options of a command in a world. Nothing in the file is nested too deeply unless the room for
it is given. -/
def options (w : World) (room : Option Nat := none) : Except CommandFault Options := do
  let base ← (Options.load w Options.defaultLayer [] a.config room).mapError .options
  a.apply base

end Arguments

end SdlPhp
