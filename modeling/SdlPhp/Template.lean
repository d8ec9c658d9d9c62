import SdlPhp.Json.Value
import SdlPhp.Text.Pieces

/-!
# Templates

A template is a list of pieces: text that stands for itself, values that are put in as they are,
pieces that are shown only under a condition, and pieces that are repeated for each item of a value.
The values come from a context; a key that is not there counts as false, has no items and no text.
-/

namespace SdlPhp

/-- A piece of a template. -/
inductive Piece
  | text (s : String)
  | value (key : String)
  | ifTrue (key : String) (body : List Piece)
  | forEach (item key : String) (body : List Piece)

namespace Template

abbrev Context := Entries Json

def valueText (context : Context) (key : String) : String :=
  ((context.get? key).map Json.display).getD ""

def isTrue (context : Context) (key : String) : Bool :=
  ((context.get? key).map Json.isTrue).getD false

def items (context : Context) (key : String) : Except Json.ItemsFault (List Json) :=
  match context.get? key with
  | some v => v.items
  | none => .ok []

mutual

def renderPiece (context : Context) : Piece → Except Json.ItemsFault String
  | .text s => .ok s
  | .value key => .ok (valueText context key)
  | .ifTrue key body => if isTrue context key then render context body else .ok ""
  | .forEach item key body => do
    let texts ← (← items context key).mapM fun v => render (context.put item v) body
    return String.join texts

/-- The text of a template in a context. -/
def render (context : Context) : List Piece → Except Json.ItemsFault String
  | [] => .ok ""
  | p :: ps => do return (← renderPiece context p) ++ (← render context ps)

end

/-- The text of a named template; names are paths, in which empty parts and dots count for nothing. -/
def find? (templates : Entries String) (name : String) : Option String :=
  let parts := (Text.pieces '/' name.toList).filter fun p => p ≠ [] && p ≠ ['.']
  templates.get? (String.ofList (Text.join '/' parts))

end Template

end SdlPhp
