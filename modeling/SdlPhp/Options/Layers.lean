import SdlPhp.Options.Basic

/-!
# Layers of options

Options come from layers of keys with values: defaults, a file, overrides. The value of a later
layer replaces that of an earlier one under the same key. Every value that is left under the key of
an option has to have the shape that the option asks for; a key that is no option is kept among the
custom values. What is said of a value of another shape shows the value, which may be impossible.
-/

namespace SdlPhp

/-- Keys with values. -/
abbrev Layer := Entries Json

/-- The shapes that options ask for. -/
inductive Shape
  | textOrNull
  | texts
  | flag
  | integer
  | text
  | scalarMap
  | overrideMap
  | object
  deriving DecidableEq, Repr

namespace Shape

/-- The words of a shape in a message. -/
def words : Shape → String
  | textOrNull => "a string or null"
  | texts => "a list of strings"
  | flag => "a boolean"
  | integer => "an integer"
  | text => "a string"
  | scalarMap => "an object mapping scalar names to PHP types"
  | overrideMap => "an object mapping enum names to value overrides"
  | object => "an object"

end Shape

/-- The value is of the given kind. -/
def Json.isOf (α : Type) [OptionKind α] (v : Json) : Bool :=
  (OptionKind.ofJson? v : Option α).isSome

/-- The value has the shape. -/
def Json.fits (v : Json) : Shape → Bool
  | .textOrNull => v.isOf (Option String)
  | .texts => v.isOf (List String)
  | .flag => v.isOf Bool
  | .integer => v.isOf Int
  | .text => v.isOf String
  | .scalarMap => v.isOf (Entries String)
  | .overrideMap => v.isOf (Entries (Entries String))
  | .object => v.isOf (Entries Json)

/-- The keys of the options with their shapes. -/
def optionShapes : List (String × Shape) :=
  [("output_file", .textOrNull), ("namespace", .textOrNull), ("imports", .texts),
   ("open_tag", .flag), ("indent_size", .integer), ("use_tabs", .flag), ("add_comments", .flag),
   ("naming_convention", .text), ("types_prefix", .text), ("scalars", .scalarMap),
   ("list_type", .text), ("enum_values", .overrideMap), ("class_members_prefix", .text),
   ("custom", .object)]

def shapeOf? (key : String) : Option Shape := Entries.get? optionShapes key

/-- A value under the key of an option that has not the shape of the option. -/
structure OptionFault where
  key : String
  shape : Shape
  value : Json
  /-- What keeps the value from being written into the message about it. -/
  unwritten : Option Json.WriteFault
  deriving Repr

namespace OptionFault

/-- The message, in which the value is written; where it cannot be, that is the fault instead. -/
def message (f : OptionFault) : String :=
  match f.unwritten with
  | none => s!"Option '{f.key}' must be {f.shape.words}, got {f.value.kindName}: {f.value.literal}"
  | some cause => cause.message

/-- The fault is not told as one of the options. -/
def isUntold (f : OptionFault) : Bool := f.unwritten.isSome

end OptionFault

/-- The first key that is no option, where only options may be set. -/
structure UnknownKey where
  key : String
  deriving DecidableEq, Repr

namespace Options

/-- Sets the option with this key. -/
def set (o : Options) (key : String) (v : Json) : Options :=
  match key with
  | "output_file" => { o with outputFile := .ofJson v }
  | "namespace" => { o with phpNamespace := .ofJson v }
  | "imports" => { o with imports := .ofJson v }
  | "open_tag" => { o with openTag := .ofJson v }
  | "indent_size" => { o with indentSize := .ofJson v }
  | "use_tabs" => { o with useTabs := .ofJson v }
  | "add_comments" => { o with addComments := .ofJson v }
  | "naming_convention" => { o with namingConvention := .ofJson v }
  | "types_prefix" => { o with typesPrefix := .ofJson v }
  | "scalars" => { o with scalars := .ofJson v }
  | "list_type" => { o with listType := .ofJson v }
  | "enum_values" => { o with enumValues := .ofJson v }
  | "class_members_prefix" => { o with membersPrefix := .ofJson v }
  | "custom" => { o with custom := .ofJson v }
  | _ => o

/-- Sets the options of the entries one after the other. -/
def setAll (o : Options) (entries : Layer) : Options :=
  entries.foldl (fun (o : Options) e => o.set e.1 e.2) o

/-- The first value of a layer that has not the shape of its option. There may be room for so much
nesting in the message about it. -/
def firstFault? (layer : Layer) (room : Option Nat := none) : Option OptionFault :=
  layer.findSome? fun (key, v) =>
    match shapeOf? key with
    | some shape => if v.fits shape then none else some ⟨key, shape, v, v.writeFault? room⟩
    | none => none

/-- The entries of a layer under keys of options, and the others. -/
def known (layer : Layer) : Layer := layer.filter fun e => (shapeOf? e.1).isSome

def unknown (layer : Layer) : Layer := layer.filter fun e => (shapeOf? e.1).isNone

/-- The options of one layer; what it does not set keeps the default. -/
def ofLayer (layer : Layer) (room : Option Nat := none) : Except OptionFault Options :=
  match firstFault? layer room with
  | some fault => .error fault
  | none =>
    let o := setAll {} (known layer)
    .ok { o with custom := o.custom.map (·.update (unknown layer)) }

/-- The layers as one, in which the value of the last layer with a key counts. -/
def merge (layers : List Layer) : Layer :=
  match layers with
  | [] => []
  | base :: others => others.foldl Entries.update base

/-- The options that the layers give, the first of them the weakest. -/
def ofLayers (layers : List Layer) (room : Option Nat := none) : Except OptionFault Options :=
  ofLayer (merge layers) room

/-- The layer of built-in defaults. -/
def defaultLayer : Layer :=
  [("open_tag", .bool true), ("indent_size", .int 4), ("use_tabs", .bool false),
   ("add_comments", .bool true), ("naming_convention", .text "pascal"),
   ("list_type", .text "Iterable"), ("class_members_prefix", .text "")]

/-- The options that result from setting values under keys of options, which nothing checks. -/
def direct (layer : Layer) : Except UnknownKey Options :=
  match (unknown layer).head? with
  | some e => .error ⟨e.1⟩
  | none => .ok (setAll {} layer)

end Options

end SdlPhp
