import SdlPhp.Naming.Case
import SdlPhp.Options.Setting
import SdlPhp.Text.Identifier
import SdlPhp.Text.Pieces

/-!
# Options

The options of a run with their defaults, what follows from them, and the warnings about values
that can be used but hardly make sense.
-/

namespace SdlPhp

structure Options where
  outputFile : Setting (Option String) := .value none
  phpNamespace : Setting (Option String) := .value none
  imports : Setting (List String) := .value []
  openTag : Setting Bool := .value true
  indentSize : Setting Int := .value 4
  useTabs : Setting Bool := .value false
  addComments : Setting Bool := .value true
  namingConvention : Setting String := .value "pascal"
  typesPrefix : Setting String := .value ""
  scalars : Setting (Entries String) := .value []
  listType : Setting String := .value "Iterable"
  /-- The literals that stand for the values of enums. -/
  enumValues : Setting (Entries (Entries String)) := .value []
  membersPrefix : Setting String := .value ""
  /-- Values under keys that are no options. -/
  custom : Setting (Entries Json) := .value []
  deriving Repr

/-- A naming convention that is none of the known ones. -/
structure ConventionFault where
  convention : String
  deriving DecidableEq, Repr

def ConventionFault.message (f : ConventionFault) : String :=
  s!"Invalid naming_convention: {f.convention}"

/-- Why there is no text for a level of indentation. -/
inductive IndentFault
  /-- The size is no whole number. -/
  | notNumber (size : Json)
  /-- The size does not fit into a machine word. -/
  | outOfRange
  /-- The text would not fit into memory. -/
  | tooLarge
  deriving Repr

def IndentFault.message : IndentFault → String
  | notNumber size => s!"can't multiply sequence by non-int of type '{size.kindName}'"
  | outOfRange => "cannot fit 'int' into an index-sized integer"
  | tooLarge => "out of memory"

namespace Options

/-! ## Indentation and naming -/

/-- The largest size of a machine word, with a sign. -/
def wordLimit : Int := Int.pow 2 63

/-- A size from which on there is no memory for so many characters. -/
def memoryLimit : Int := Int.pow 2 36

/-- So many spaces; a negative number of them counts as none. -/
def spaces (n : Int) : Except IndentFault String :=
  if n < -wordLimit || wordLimit ≤ n then .error .outOfRange
  else if memoryLimit ≤ n then .error .tooLarge
  else .ok (String.ofList (List.replicate n.toNat ' '))

/-- The text of one level of indentation. -/
def indent (o : Options) : Except IndentFault String :=
  if o.useTabs.isTrue then .ok "\t"
  else
    match o.indentSize with
    | .value n => spaces n
    | .other (.bool b) => spaces (if b then 1 else 0)
    | .other size => .error (.notNumber size)

def nameCase (o : Options) : Except ConventionFault NameCase :=
  match o.namingConvention.value?.bind NameCase.ofText? with
  | some case => .ok case
  | none => .error ⟨o.namingConvention.text⟩

/-! ## Literals of enums -/

/-- The literal for a value of an enum, unless nothing is in it. It may be no text. -/
def enumLiteral? (o : Options) (enum value : String) : Except Misuse (Option Json) :=
  match o.enumValues with
  | .value t =>
    let literal := (t.get? enum).bind fun overrides => overrides.get? value
    .ok ((literal.filter (!·.isEmpty)).map .text)
  | .other (.object fields) =>
    match Entries.get? fields enum with
    | some (.object overrides) => .ok ((Entries.get? overrides value).filter (·.isTrue))
    | _ => .ok none
  | .other v => .error (.noOperation v "get")

/-- The names of the enums with literals. -/
def enumNames (o : Options) : List String :=
  match o.enumValues.json with
  | .object fields => Entries.keys fields
  | _ => []

/-! ## As a JSON object -/

/-- The options but for the custom values, by their keys and in their order. -/
def plainFields (o : Options) : Entries Json :=
  [("output_file", o.outputFile.json), ("namespace", o.phpNamespace.json),
   ("imports", o.imports.json), ("open_tag", o.openTag.json), ("indent_size", o.indentSize.json),
   ("use_tabs", o.useTabs.json), ("add_comments", o.addComments.json),
   ("naming_convention", o.namingConvention.json), ("types_prefix", o.typesPrefix.json),
   ("scalars", o.scalars.json), ("list_type", o.listType.json),
   ("enum_values", o.enumValues.json), ("class_members_prefix", o.membersPrefix.json)]

/-- The options with the custom values under their own key. -/
def fields (o : Options) : Entries Json := o.plainFields ++ [("custom", o.custom.json)]

/-- The options with the custom values in one object, as they are saved; a custom value under the
key of an option takes the place of the option. -/
def flatFields (o : Options) : Except Misuse (Entries Json) :=
  o.custom.json.entries.map fun custom =>
    ((KeyTable.ofEntries o.plainFields).update custom).fields

/-- All options have equal values. -/
def same (o p : Options) : Bool := Json.same (.object o.fields) (.object p.fields)

/-! ## Warnings -/

def isIdentifierText (s : String) : Bool := Text.isIdentifier s.toList

/-- The segments of a namespace. -/
def segments (ns : String) : List String :=
  (Text.pieces '\\' ns.toList).map String.ofList

/-- What is refused where an operation is needed that only texts have: all that is not empty. -/
def refuseOperation (v : Json) (operation : String) : Except Misuse (List String) :=
  if v.isTrue then .error (.noOperation v operation) else .ok []

def conventionWarnings (o : Options) : Except Misuse (List String) :=
  if !o.namingConvention.json.isKey then .error (.noKey o.namingConvention.json)
  else
    match o.nameCase with
    | .ok _ => .ok []
    | .error fault => .ok [fault.message]

/-- The segments that are no identifiers; an empty namespace has none. -/
def segmentWarnings (ns : String) : List String :=
  if ns.isEmpty then []
  else
    ((segments ns).filter (!isIdentifierText ·)).map fun s => s!"Invalid namespace segment: '{s}'"

def namespaceWarnings (o : Options) : Except Misuse (List String) :=
  match o.phpNamespace with
  | .value ns => .ok ((ns.map segmentWarnings).getD [])
  | .other v => refuseOperation v "split"

def prefixWarnings (o : Options) : Except Misuse (List String) :=
  match o.membersPrefix with
  | .value s =>
    .ok (if s.isEmpty || isIdentifierText s then [] else [s!"Invalid class_members_prefix: '{s}'"])
  | .other v => refuseOperation v "isidentifier"

def listTypeWarnings (o : Options) : List String :=
  if o.listType.isTrue then [] else ["list_type must not be empty"]

def overrideWarning (enum : String) : String :=
  s!"enum_values.{enum} must map value names to literals"

/-- The enums whose literals are not given by an object. -/
def overrideWarnings (o : Options) : Except Misuse (List String) :=
  match o.enumValues with
  | .value _ => .ok []
  | .other (.object fields) =>
    .ok ((fields.filter (!·.2.isObject)).map fun e => overrideWarning e.1)
  | .other v => .error (.noOperation v "items")

/-- The warnings about option values. -/
def warnings (o : Options) : Except Misuse (List String) := do
  return (← o.conventionWarnings) ++ (← o.namespaceWarnings) ++ (← o.prefixWarnings) ++
    o.listTypeWarnings ++ (← o.overrideWarnings)

end Options

end SdlPhp
