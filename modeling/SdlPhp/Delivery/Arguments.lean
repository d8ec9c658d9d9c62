import SdlPhp.Delivery.Flag
import SdlPhp.Number.Integer
import SdlPhp.Options.Setting
import SdlPhp.Text.Pieces
import SdlPhp.Text.Quoted

/-!
# Arguments

The arguments of a command: the sources of a schema and the values of flags. A long name may be cut
short as long as it stands for one flag only, a value may be attached to its flag, and after `--` no
argument is a flag. Attached to a flag, `--` stands for an empty list of values. The sources have to
stand together.
-/

namespace SdlPhp

/-- What a flag is given: a value or, where a separator stands in its place, the empty list. -/
inductive Given (α : Type)
  | value (a : α)
  | emptyList
  deriving DecidableEq, Repr

namespace Given

variable {α : Type}

def value? : Given α → Option α
  | value a => some a
  | emptyList => none

def setting : Given α → Setting α
  | value a => .value a
  | emptyList => .other (.list [])

end Given

structure Arguments where
  sources : List String := []
  output : Option String := none
  config : Option String := none
  timeout : Given Int := .value 30
  verbose : Bool := false
  phpNamespace : Option String := none
  imports : List (Given String) := []
  listType : Option String := none
  membersPrefix : Option (Given String) := none
  typesPrefix : Option (Given String) := none
  namingConvention : Option String := none
  scalars : List (Given String) := []
  enumValues : List (Given String) := []
  noComments : Bool := false
  noOpenTag : Bool := false
  useTabs : Bool := false
  indentSize : Option (Given Int) := none
  deriving DecidableEq, Repr

/-- Why arguments cannot be read. -/
inductive UsageFault
  | ambiguous (word : String) (names : List String)
  | missingValue (f : Flag)
  | ignoredValue (f : Flag) (value : String)
  | notInteger (f : Flag) (value : String)
  | notCase (f : Flag) (value : String)
  | missingSources
  | unrecognized (words : List String)
  deriving DecidableEq, Repr

namespace UsageFault

def about (f : Flag) (text : String) : String := "argument " ++ f.label ++ ": " ++ text

def choices : String := ", ".intercalate (NameCase.all.map fun c => Text.quoted c.text)

def message : UsageFault → String
  | ambiguous word names =>
    "ambiguous option: " ++ word ++ " could match " ++ ", ".intercalate names
  | missingValue f => about f "expected one argument"
  | ignoredValue f value => about f ("ignored explicit argument " ++ Text.quoted value)
  | notInteger f value => about f ("invalid int value: " ++ Text.quoted value)
  | notCase f value =>
    about f ("invalid choice: " ++ Text.quoted value ++ " (choose from " ++ choices ++ ")")
  | missingSources => "the following arguments are required: SCHEMA"
  | unrecognized words => "unrecognized arguments: " ++ " ".intercalate words

end UsageFault

/-- Why a command ends before it begins. -/
inductive EarlyEnd
  | help
  | version
  | refused (fault : UsageFault)
  deriving DecidableEq, Repr

namespace Arguments

/-! ## Words -/

/-- What a word of the command line is. -/
inductive Word
  | plain (text : String)
  | separator
  /-- A flag, and what is attached to it in the same word. -/
  | flag (f : Flag) (isShort : Bool) (attached : Option (List Char))
  | unknown (text : String)
  deriving DecidableEq, Repr

/-- How a message shows the word. -/
def Word.text : Word → String
  | plain text => text
  | separator => "--"
  | flag f _ _ => f.label
  | unknown text => text

def isShortName (name : String) : Bool := !"--".toList.isPrefixOf name.toList

/-- A negative number, which is no flag; a line feed at its end does not count. -/
def isNegativeNumber : List Char → Bool
  | '-' :: cs =>
    match Text.cutFirst '.' (if cs.getLast? = some '\n' then cs.dropLast else cs) with
    | (whole, none) => !whole.isEmpty && whole.all isDecimal
    | (whole, some fraction) => whole.all isDecimal && !fraction.isEmpty && fraction.all isDecimal
  | _ => false
where
  isDecimal (c : Char) : Bool := (Text.digitValue? c).isSome

/-- The flags that the start of a long name can stand for. -/
def longMatches (start : List Char) : List (String × Flag) :=
  Flag.named.filter fun e => start.isPrefixOf e.1.toList

/-- The readings of a word that is no whole name: what it stands for, and the attached value. -/
def readings (cs : List Char) : List (String × Word) :=
  match cs with
  | '-' :: '-' :: _ =>
    let (start, value) := Text.cutFirst '=' cs
    (longMatches start).map fun e => (e.1, .flag e.2 false value)
  | _ =>
    let (name, value) := cs.splitAt 2
    (Flag.named.filter (·.1.toList == name)).map fun e => (e.1, .flag e.2 true (some value))

/-- What a word that is no separator is. -/
def classify (word : String) : Except UsageFault Word :=
  match word.toList with
  | '-' :: c :: cs =>
    match Flag.ofName? word with
    | some f => .ok (.flag f (isShortName word) none)
    | none =>
      let (name, value) := Text.cutFirst '=' ('-' :: c :: cs)
      match Flag.ofName? (String.ofList name), value with
      | some f, some value => .ok (.flag f (isShortName (String.ofList name)) (some value))
      | _, _ =>
        match readings ('-' :: c :: cs) with
        | [] =>
          if isNegativeNumber word.toList || word.toList.contains ' ' then .ok (.plain word)
          else .ok (.unknown word)
        | [(_, w)] => .ok w
        | several => .error (.ambiguous word (several.map Prod.fst))
  | _ => .ok (.plain word)

/-- What the words are; the ones behind a separator are plain. -/
def classifyAll : List String → Except UsageFault (List Word)
  | [] => .ok []
  | word :: words =>
    if word = "--" then .ok (.separator :: words.map .plain)
    else do return (← classify word) :: (← classifyAll words)

/-! ## Flags in one word -/

/-- How the flags in one word end. -/
inductive ClusterEnd
  /-- With a flag and the value attached to it. -/
  | valued (f : Flag) (value : String)
  /-- With a flag whose value, if it takes one, is the next word. -/
  | open (f : Flag)
  deriving DecidableEq, Repr

/-- Reads what is attached to a flag: its value or, behind a short flag without a value, more short
flags. Gives the flags before the last one, and the end. -/
def cluster (f : Flag) (isShort : Bool) (attached : List Char) :
    Except UsageFault (List Flag × ClusterEnd) :=
  if f.takesValue then .ok ([], .valued f (String.ofList attached))
  else
    match isShort, attached with
    | true, c :: cs =>
      match Flag.ofName? (String.ofList ['-', c]), cs with
      | none, _ => .error (.ignoredValue f (String.ofList attached))
      | some g, [] => .ok ([f], .open g)
      | some g, d :: cs => (cluster g true (d :: cs)).map fun r => (f :: r.1, r.2)
    | _, _ => .error (.ignoredValue f (String.ofList attached))
termination_by attached.length

/-! ## Carrying out -/

/-- What a word gives a flag. -/
def givenBy (value : String) : Given String :=
  if value = "--" then .emptyList else .value value

def integer (f : Flag) : Given String → Except EarlyEnd (Given Int)
  | .emptyList => .ok .emptyList
  | .value text =>
    match Number.integer? text with
    | some n => .ok (.value n)
    | none => .error (.refused (.notInteger f text))

/-- The text that names one of the naming conventions. -/
def convention (f : Flag) : Given String → Except EarlyEnd (Option String)
  | .emptyList => .ok none
  | .value text =>
    match NameCase.ofText? text with
    | some _ => .ok (some text)
    | none => .error (.refused (.notCase f text))

/-- The arguments with a flag set; a flag without a value ignores what it is given. -/
def set (a : Arguments) (f : Flag) (s : Given String) : Except EarlyEnd Arguments :=
  match f with
  | .help => .error .help
  | .version => .error .version
  | .output => .ok { a with output := s.value? }
  | .config => .ok { a with config := s.value? }
  | .timeout => do return { a with timeout := ← integer f s }
  | .verbose => .ok { a with verbose := true }
  | .phpNamespace => .ok { a with phpNamespace := s.value? }
  | .importName => .ok { a with imports := a.imports ++ [s] }
  | .listType => .ok { a with listType := s.value? }
  | .membersPrefix => .ok { a with membersPrefix := some s }
  | .typesPrefix => .ok { a with typesPrefix := some s }
  | .namingConvention => do return { a with namingConvention := ← convention f s }
  | .scalar => .ok { a with scalars := a.scalars ++ [s] }
  | .enumValue => .ok { a with enumValues := a.enumValues ++ [s] }
  | .noComments => .ok { a with noComments := true }
  | .noOpenTag => .ok { a with noOpenTag := true }
  | .useTabs => .ok { a with useTabs := true }
  | .indentSize => do return { a with indentSize := some (← integer f s) }

/-- Sets flags without values, one after the other. -/
def setPlain (a : Arguments) (fs : List Flag) : Except EarlyEnd Arguments :=
  fs.foldlM (fun a f => a.set f .emptyList) a

/-- The arguments read so far and the words that fit nowhere. -/
structure Reading where
  arguments : Arguments := {}
  leftOver : List String := []
  deriving DecidableEq, Repr

def Reading.leave (r : Reading) (words : List String) : Reading :=
  { r with leftOver := r.leftOver ++ words }

/-- Takes a run of words as the sources if there are none yet. The separator is no source, and a run
of nothing else is left over. -/
def Reading.takeRun (r : Reading) (run : List Word) : Reading :=
  let sources := run.filter (· ≠ .separator)
  if r.arguments.sources.isEmpty && !sources.isEmpty then
    { r with arguments := { r.arguments with sources := sources.map Word.text } }
  else r.leave (run.map Word.text)

/-- The word is no flag. -/
def Word.isPositional : Word → Bool
  | .plain _ | .separator => true
  | _ => false

/-- Reads words with the flags in them, from left to right. -/
def readWords (r : Reading) (words : List Word) : Except EarlyEnd Reading :=
  match words with
  | [] => .ok r
  | .unknown text :: ws => readWords (r.leave [text]) ws
  | .flag f isShort attached :: ws => do
    let (before, ending) ← (match attached with
      | some cs => (cluster f isShort cs).mapError .refused
      | none => .ok ([], .open f))
    match ending with
    | .valued g value => do
      let a ← (← r.arguments.setPlain before).set g (givenBy value)
      readWords { r with arguments := a } ws
    | .open g =>
      if g.takesValue then
        match ws with
        | .plain value :: ws => do
          let a ← (← r.arguments.setPlain before).set g (givenBy value)
          readWords { r with arguments := a } ws
        | _ => .error (.refused (.missingValue g))
      else do
        let a ← (← r.arguments.setPlain before).set g .emptyList
        readWords { r with arguments := a } ws
  | w :: ws =>
    have : (ws.dropWhile Word.isPositional).length ≤ ws.length :=
      (List.dropWhile_sublist _).length_le
    readWords (r.takeRun (w :: ws.takeWhile Word.isPositional)) (ws.dropWhile Word.isPositional)
termination_by words.length

/-- Reads the words of a command line. -/
def read (words : List String) : Except EarlyEnd Arguments := do
  let classified ← (classifyAll words).mapError .refused
  let r ← readWords {} classified
  if r.arguments.sources.isEmpty then throw (.refused .missingSources)
  unless r.leftOver.isEmpty do throw (.refused (.unrecognized r.leftOver))
  return r.arguments

end Arguments

end SdlPhp
