import SdlPhp.Json.Reader
import SdlPhp.Json.Writer
import SdlPhp.Options.Layers
import SdlPhp.World.Basic

/-!
# Files of options

Options are read from a file that holds one JSON object, and are written to such a file, where the
custom values stand among the options. How deeply the values in a file may nest depends on the room
on the stack of the interpreter; unless it is given, nothing is nested too deeply.
-/

namespace SdlPhp

/-- Why there are no options. -/
inductive OptionsFault
  | missing (path : Path)
  /-- The file system refuses to say what is there. -/
  | inaccessible (path : Path) (fault : SystemFault)
  | notJson (path : Path)
  | unreadable (path : Path) (fault : SystemFault)
  /-- The file holds no UTF-8 text. -/
  | undecodable
  | invalidJson (path : Path) (source : List Char) (fault : Json.Fault)
  | notObject (path : Path)
  | option (fault : OptionFault)
  | unsavable (path : Path) (fault : SystemFault)
  /-- The custom values cannot be put among the options. -/
  | misuse (fault : Misuse)
  /-- The options hold half a surrogate pair, which cannot be saved. -/
  | unencodable
  deriving Repr

def OptionsFault.message : OptionsFault → String
  | missing path => s!"Configuration file not found: {path.text}"
  | inaccessible path fault => fault.message path
  | notJson path => s!"Configuration file must be JSON: {path.text}"
  | unreadable path fault =>
    s!"Failed to load configuration file {path.text}: {fault.message path}"
  | undecodable => "invalid UTF-8"
  | invalidJson path source fault =>
    match fault with
    | .at _ _ => s!"Invalid JSON in configuration file {path.text}: {fault.message source}"
    | .hugeInteger _ => fault.message source
    | .tooDeep _ => fault.message source
  | notObject path => s!"Configuration file must contain a JSON object: {path.text}"
  | option fault => fault.message
  | unsavable path fault =>
    if fault.isNoPath then fault.message path
    else s!"Failed to save configuration to {path.text}: {fault.message path}"
  | misuse fault => fault.message
  | unencodable => "surrogates not allowed"

/-- The faults that are not told as faults of the options: a path that leads nowhere or is too long,
a text in no known encoding, a number that is too long, values that are nested too deeply, and a
value that cannot be written into the message about it. -/
def OptionsFault.isUntold : OptionsFault → Bool
  | inaccessible _ _ => true
  | undecodable => true
  | invalidJson _ _ (.hugeInteger _) => true
  | invalidJson _ _ (.tooDeep _) => true
  | option fault => fault.isUntold
  | unsavable _ fault => fault.isNoPath
  | misuse _ => true
  | unencodable => true
  | _ => false

namespace Options

/-- The text of a file; every line end is read as a line feed. -/
def decode? (bytes : ByteArray) : Option (List Char) :=
  (Text.decode? bytes).map fun s => Text.unifyLineEnds s.toList

/-- The layer that a file holds. Its values may nest as deeply as there is room. -/
def readLayer (w : World) (path : Path) (room : Option Nat := none) :
    Except OptionsFault Layer := do
  unless ← (w.existsAt path).mapError (.inaccessible path) do throw (.missing path)
  unless path.extension = ".json" do throw (.notJson path)
  let bytes ← (w.read path).mapError (.unreadable path)
  match decode? bytes with
  | none => throw .undecodable
  | some source =>
    match Json.read source room with
    | .error fault => throw (.invalidJson path source fault)
    | .ok (.object fields) => return fields
    | .ok _ => throw (.notObject path)

/-- The options from defaults, a file and overrides; an empty name of the file stands for none. -/
def load (w : World) (defaults overrides : Layer) (file : Option String)
    (room : Option Nat := none) : Except OptionsFault Options := do
  let fromFile ← (match file.filter (!·.isEmpty) with
    | some name => readLayer w (Path.ofText name) room
    | none => pure [])
  (ofLayers [defaults, fromFile, overrides] room).mapError .option

/-- Saves the options under a path: the world in which they are saved, and a fault if not all of
them could be. A piece of the text that has no bytes ends it. -/
def save (w : World) (o : Options) (file : String) : World × Option OptionsFault :=
  let path := Path.ofText file
  match o.flatFields with
  | .error fault => (w, some (.misuse fault))
  | .ok fields =>
    let (sound, rest) := (Json.pieces 0 (.object fields)).span (!Text.hasHalf ·.toList)
    match w.write path ((Text.encode? (String.join sound)).getD ByteArray.empty) with
    | .error fault => (w, some (.unsavable path fault))
    | .ok w => (w, if rest.isEmpty then none else some .unencodable)

end Options

end SdlPhp
