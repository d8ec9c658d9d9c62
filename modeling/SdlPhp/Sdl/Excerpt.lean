import SdlPhp.Text.CodePoint
import SdlPhp.Text.Lines
import SdlPhp.Text.Pieces

/-!
# Excerpts

A place in a text as a message shows it: its line and column, and then the line of that number with
a mark under the column, between the lines around it. Of a long line only the parts around the mark
are shown, each in a row of its own.

The place of a token is counted in the text before it, where every kind of line break counts and one
at the end opens no line of its own. The lines that are shown end at line feeds and carriage returns
only, so there may be fewer of them than the place asks for.
-/

namespace SdlPhp.Sdl

/-- A line and a column of a text, both counted from one; a column is a code point. -/
structure Place where
  line : Nat
  column : Nat
  deriving DecidableEq, Repr

/-- The place that follows a text: behind the last of its lines. -/
def Place.after (before : List Char) : Place :=
  match Text.splitLines before with
  | [] => ⟨1, 1⟩
  | ls => ⟨ls.length, Text.count (ls.getLastD []) + 1⟩

/-- The text behind as many spaces as give it the width. -/
def alignRight (width : Nat) (cs : List Char) : List Char :=
  List.replicate (width - cs.length) ' ' ++ cs

/-- The text in parts of the given width; the last part may be shorter. -/
def partsOf (width : Nat) (cs : List Char) : List (List Char) :=
  let ps := Text.codePoints cs
  (List.range ((ps.length + width - 1) / width)).map fun i =>
    Text.ofCodePoints ((ps.drop (i * width)).take width)

/-! ## Rows -/

/-- A row of an excerpt: a label and what stands behind it. -/
structure Row where
  label : List Char
  content : List Char
  deriving DecidableEq, Repr

namespace Row

def numbered (line : Nat) (content : List Char) : Row := ⟨(s!"{line} |").toList, content⟩

def unnumbered (content : List Char) : Row := ⟨['|'], content⟩

/-- The row that marks a column. -/
def mark (column : Nat) : Row := unnumbered (alignRight column ['^'])

def render (width : Nat) (r : Row) : List Char :=
  alignRight width r.label ++ if r.content.isEmpty then [] else ' ' :: r.content

end Row

/-- The labels of the rows end in one column. -/
def renderRows (rows : List Row) : List Char :=
  let width := (rows.map (·.label.length)).foldl max 0
  Text.unlines (rows.map (·.render width))

/-! ## Excerpts -/

def longestLine : Nat := 120

def partWidth : Nat := 80

/-- A long line from its start to the part behind that of the place. -/
def longLineRows (p : Place) (line : List Char) : List Row :=
  match partsOf partWidth line with
  | [] => []
  | part :: parts =>
    let marked := p.column / partWidth
    .numbered p.line part :: (parts.take marked).map .unnumbered ++
      .mark (p.column % partWidth) :: ((parts.drop marked).take 1).map .unnumbered

/-- The line of the place with the mark under it, between the lines before and after it. -/
def shortLineRows (ls : List (List Char)) (p : Place) (line : List Char) : List Row :=
  let before := if p.line ≤ 1 then none else ls[p.line - 2]?
  (before.map (.numbered (p.line - 1))).toList ++
    [.numbered p.line line, .mark p.column] ++
    (ls[p.line]?.map (.numbered (p.line + 1))).toList

/-- The place of a text where so many of its characters are left, with the lines around it; none if
there is no line of that number to show. -/
def excerpt? (source : String) (left : Nat) : Option String := do
  let cs := source.toList
  let p := Place.after (cs.take (cs.length - left))
  let ls := Text.lines (Text.unifyLineEnds cs)
  let line ← ls[p.line - 1]?
  let isLong := longestLine < Text.count line
  let rows := if isLong then longLineRows p line else shortLineRows ls p line
  return s!"GraphQL request:{p.line}:{p.column}\n" ++ String.ofList (renderRows rows)

end SdlPhp.Sdl
