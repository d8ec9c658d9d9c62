import SdlPhp.Delivery.Configuration
import SdlPhp.Delivery.Table
import SdlPhp.Generation.Basic

/-!
# The command

The run of a command line in a world: it reads the arguments, puts the options together, loads the
schema, generates the code, and prints it or writes it to a file. What is said about the run goes to
the console and not to the output.
-/

namespace SdlPhp

/-- How a run ends. -/
inductive Ending
  | exited (code : Nat)
  /-- The arguments cannot be read. -/
  | refused (fault : UsageFault)
  /-- A fault for which the command has no message. -/
  | escaped (fault : CommandFault)
  deriving Repr

/-- What a run leaves behind. -/
structure Outcome where
  ending : Ending
  world : World
  stdout : String := ""
  /-- The lines on the console. -/
  messages : List String := []
  /-- The addresses asked for, with the time allowed in seconds. -/
  requests : List (String × Given Int) := []

namespace Command

/-! ## Texts -/

def programName : String := "php-codegen"

def version : String := "0.1.0"

def versionText : String := programName ++ " " ++ version ++ "\n"

def flagHelp (f : Flag) : String :=
  "  " ++ ", ".intercalate f.names ++ (if f.takesValue then " VALUE" else "") ++ "\n"

def helpText : String :=
  "usage: " ++ programName ++ " [FLAG ...] SCHEMA [SCHEMA ...]\n\nflags:\n" ++
    String.join (Flag.all.map flagHelp)

/-! ## Faults -/

/-- The faults that are not told as errors of the command: texts in no known encoding, paths that
the file system cannot take, addresses and escapes that are cut off, numbers that are too long,
values that are nested too deeply, lists in the place of texts, and broken markup. -/
def isUntold : CommandFault → Bool
  | .options fault => fault.isUntold
  | .emptyItem _ => true
  | .loading fault => fault.isUntold
  | .generation _ => true
  | .writing _ _ fault => fault.isNoPath
  | .unencodable => true
  | .markup _ => true
  | _ => false

/-! ## The console -/

/-- What a run has done so far. -/
structure Progress where
  world : World
  stdout : String := ""
  messages : List String := []

/-- A run that goes on, or ends with a fault. -/
abbrev Running := ExceptT CommandFault (StateM Progress)

def showLines (lines : List String) : Running Unit :=
  modify fun p => { p with messages := p.messages ++ lines }

def ofMarkup {α : Type} : Except Markup.Fault α → Running α
  | .ok v => return v
  | .error fault => throw (.markup fault)

/-- Shows a text with markup. -/
def say (text : String) : Running Unit := do showLines (← ofMarkup (Markup.lines text))

/-- Shows a table, if all its texts can be shown. -/
def sayTable (title : String) (rows : List (String × String)) : Running Unit := do
  showLines (← ofMarkup (Table.lines ⟨title, rows⟩))

/-- Shows the types of the scalars of a schema, sorted by name. -/
def sayScalars (g : Generator) (r : Registry) : Running Unit := do
  let m ← (match g.typeMap r with
    | .ok m => pure m
    | .error fault => throw (.generation (.misuse fault)))
  let rows := (m.scalarTable.mapValues Setting.text).mergeSort fun a b => Text.inOrder a.1 b.1
  sayTable "Scalar Mapping" (("GraphQL", "PHP") :: rows)

def sayMetadata (g : Generated) : Running Unit :=
  sayTable "Generation Metadata"
    [("Property", "Value"), ("Language", Php.SourceFile.language),
     ("File Extension", Php.SourceFile.extension),
     ("Definition Count", Number.natText g.definitionCount),
     ("Warning Count", Number.natText g.warnings.length)]

def sayWarnings (warnings : List String) : Running Unit := do
  unless warnings.isEmpty do say "[yellow]⚠️  Warnings:[/yellow]"
  for w in warnings do say ("  [yellow]•[/yellow] " ++ Markup.escape w)

/-! ## Delivery -/

/-- Writes the code to a file, for which directories are made: the world that results, and a fault if
the code is not in it. The file is emptied before the code is looked at. -/
def writeCode (w : World) (path : Path) (code : String) : World × Option CommandFault :=
  let directory := path.parent
  match w.ensureDirectory directory directory.parts.length with
  | (w, some (fault, refused)) => (w, some (.writing path refused fault))
  | (w, none) =>
    let bytes := Text.encode? code
    match w.write path (bytes.getD ByteArray.empty) with
    | .error fault => (w, some (.writing path path fault))
    | .ok w => (w, if bytes.isSome then none else some .unencodable)

/-- Brings the code to the file that is named, or else to the output. The output is taken to be no
terminal, for which the code would be coloured. Of a text that it does not take it prints nothing. -/
def deliver (output : Option String) (code : String) : Running Unit := do
  match Arguments.nonEmpty output with
  | none =>
    unless (← get).world.outputTakes code do throw .unencodable
    modify fun p => { p with stdout := p.stdout ++ code }
  | some file =>
    let path := Path.ofText file
    let (world, fault?) := writeCode (← get).world path code
    modify fun p => { p with world }
    match fault? with
    | some fault => throw fault
    | none => say ("[green]✓[/green] PHP code saved to [cyan]" ++ path.text ++ "[/cyan]")

/-- Generates and delivers; gives the exit code. -/
def produce (a : Arguments) (o : Options) (s : Schema) : Running Nat := do
  let g : Generator := { options := o }
  match g.run s with
  | .error fault =>
    if fault.isBreak then throw (.generation fault)
    say ("[red]✗ " ++ Markup.escape (failureMessage fault) ++ "[/red]")
    return 1
  | .ok generated =>
    if a.verbose then sayScalars g s.registry
    deliver a.output generated.code
    if a.verbose then sayMetadata generated
    sayWarnings generated.warnings
    return 0

/-! ## Running -/

/-- The end of a run after some progress. -/
def finish (p : Progress) (ending : Ending) (requests : List (String × Given Int)) : Outcome where
  ending := ending
  world := p.world
  stdout := p.stdout
  messages := p.messages
  requests := requests

/-- Tells a fault as an error of the command. -/
def tell (fault : CommandFault) : Running Nat := do
  say ("[red]✗ Error:[/red] " ++ Markup.escape fault.message)
  return 1

/-- Carries a run to its end; a fault is told if there is a message for it. -/
def conclude (p : Progress) (x : Running Nat) (requests : List (String × Given Int)) : Outcome :=
  let told : Running Nat :=
    tryCatch x fun fault => if isUntold fault then throw fault else tell fault
  match (ExceptT.run told).run p with
  | (.ok code, p) => finish p (.exited code) requests
  | (.error fault, p) => finish p (.escaped fault) requests

/-- Runs a command whose arguments have been read. -/
def execute (w : World) (a : Arguments) : Outcome :=
  match a.options w w.room with
  | .error fault => conclude { world := w } (throw fault) []
  | .ok o =>
    let (loaded, trace) := Source.run (Source.schema w a.sources a.timeout)
    match loaded with
    | .error fault => conclude { world := w } (throw (.loading fault)) trace.requests
    | .ok s => conclude { world := w } (produce a o s) trace.requests

/-- Runs a command line. -/
def run (w : World) (words : List String) : Outcome :=
  match Arguments.read words with
  | .error .help => { ending := .exited 0, world := w, stdout := helpText }
  | .error .version => { ending := .exited 0, world := w, stdout := versionText }
  | .error (.refused fault) => { ending := .refused fault, world := w }
  | .ok a => execute w a

end Command

end SdlPhp
