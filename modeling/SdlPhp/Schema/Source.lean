import SdlPhp.Schema.Build
import SdlPhp.World.Basic
import SdlPhp.World.Url

/-!
# Sources of a schema

The text of a schema comes from files, from directories, whose schema files are taken in the order
of their paths, and from addresses of the network. The texts of several sources are put together in
their order, and what was asked of the network and what is worth a warning is noted on the way.
-/

namespace SdlPhp

/-- Why no schema could be loaded. -/
inductive LoadFault
  | noSource
  | fileMissing (path : Path)
  /-- The file system refuses to say what is there. -/
  | inaccessible (path : Path) (fault : SystemFault)
  | unreadable (path : Path) (fault : SystemFault)
  /-- A file holds no UTF-8 text. -/
  | undecodable
  | noSchemaFiles (path : Path)
  | notUrl (source : String)
  | unreadableUrl (fault : Url.Fault)
  | timeout (url : String)
  | noConnection (url : String)
  | httpStatus (url : String) (status : Nat)
  | requestFailed (url message : String)
  | schema (fault : SchemaFault)
  deriving DecidableEq, Repr

def LoadFault.message : LoadFault → String
  | noSource => "At least one schema source is required"
  | fileMissing path => s!"File not found: {path.text}"
  | inaccessible path fault => fault.message path
  | unreadable path fault => s!"Error reading file {path.text}: {fault.message path}"
  | undecodable => "invalid UTF-8"
  | noSchemaFiles path => s!"No schema files found in {path.text}"
  | notUrl source => s!"Invalid URL: {source}"
  | unreadableUrl fault => fault.message
  | timeout url => s!"Request timeout for URL: {url}"
  | noConnection url => s!"Connection error for URL: {url}"
  | httpStatus url status => s!"HTTP error {status} for URL: {url}"
  | requestFailed url message => s!"Request error for URL {url}: {message}"
  | schema fault => fault.message

/-- The faults that are not told as faults of a schema: a path that the file system cannot take, a
text in no known encoding, and an address or an escape that is cut off. -/
def LoadFault.isUntold : LoadFault → Bool
  | inaccessible _ _ => true
  | undecodable => true
  | unreadableUrl _ => true
  | schema fault => fault.isUntold
  | _ => false

/-- What was noted while loading. -/
structure Trace (τ : Type) where
  warnings : List String := []
  /-- The addresses asked for, with the time allowed. -/
  requests : List (String × τ) := []
  deriving DecidableEq, Repr

/-- A loading that hands on the time allowed for an answer as it is. -/
abbrev Loading (τ : Type) := ExceptT LoadFault (StateM (Trace τ))

namespace Source

/-- The time allowed for an answer, in seconds, where nothing else is asked for. -/
def defaultTimeout : Int := 30

variable {τ : Type}

def warn (text : String) : Loading τ Unit :=
  modify fun t => { t with warnings := t.warnings ++ [text] }

def noteRequest (url : String) (timeout : τ) : Loading τ Unit :=
  modify fun t => { t with requests := t.requests ++ [(url, timeout)] }

/-- The text of a file; every line end is read as a line feed. -/
def decode? (bytes : ByteArray) : Option String :=
  (Text.decode? bytes).map fun s => String.ofList (Text.unifyLineEnds s.toList)

/-- The extensions of schema files. -/
def extensions : List String := [".graphql", ".graphqls", ".gql"]

def isSchemaFile (path : Path) : Bool := extensions.contains path.extension

variable (w : World)

/-- What the file system says about a path. -/
def asked (path : Path) (answer : Except SystemFault Bool) : Loading τ Bool :=
  match answer with
  | .ok b => return b
  | .error fault => throw (.inaccessible path fault)

/-- The text of a file, with a warning if its name is not that of a schema file. -/
def fromFile (path : Path) : Loading τ String := do
  unless ← asked path (w.existsAt path) do throw (.fileMissing path)
  unless isSchemaFile path do warn s!"File does not have a GraphQL extension: {path.text}"
  match w.read path with
  | .error fault => throw (.unreadable path fault)
  | .ok bytes =>
    match decode? bytes with
    | some text => return text
    | none => throw .undecodable

/-- Asks what is at each path below a directory, be it that of a schema file or not. -/
def askBelow (path : Path) : Loading τ Unit :=
  (w.entriesBelow path).forM fun entry => do
    let _ ← asked entry (w.existsAt entry)

/-- The texts of the schema files of a directory, one after the other. A path that is too long is
refused before any file is read. -/
def fromDirectory (path : Path) : Loading τ String := do
  let _ ← asked path (w.isDirectory path)
  askBelow w path
  match (w.filesBelow path).filter isSchemaFile with
  | [] => throw (.noSchemaFiles path)
  | files => return "\n".intercalate (← files.mapM (fromFile w))

def isUrl (source : String) : Loading τ Bool :=
  match Url.isUrl source with
  | .ok b => return b
  | .error fault => throw (.unreadableUrl fault)

/-- The text that an address answers with. -/
def fromUrl (url : String) (timeout : τ) : Loading τ String := do
  unless ← isUrl url do throw (.notUrl url)
  noteRequest url timeout
  match w.fetch url with
  | .response body status =>
    if 400 ≤ status && status < 600 then throw (.httpStatus url status) else return body
  | .timeout => throw (.timeout url)
  | .noConnection => throw (.noConnection url)
  | .failed message => throw (.requestFailed url message)

/-- The text of a source of any kind. -/
def text (source : String) (timeout : τ) : Loading τ String := do
  if ← isUrl source then fromUrl w source timeout
  else
    let path := Path.ofText source
    if ← asked path (w.isDirectory path) then fromDirectory w path else fromFile w path

/-- The schema that the texts of the sources describe together. -/
def schema (sources : List String) (timeout : τ) : Loading τ Schema := do
  match ← sources.mapM (text w · timeout) with
  | [] => throw .noSource
  | texts =>
    match Schema.parse ("\n".intercalate texts) with
    | .ok s => return s
    | .error fault => throw (.schema fault)

/-- Runs a loading; gives its outcome and what was noted. -/
def run {α : Type} (x : Loading τ α) : Except LoadFault α × Trace τ :=
  (ExceptT.run x).run {}

end Source

end SdlPhp
