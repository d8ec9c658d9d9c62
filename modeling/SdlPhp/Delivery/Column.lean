import SdlPhp.Text.Blank
import SdlPhp.Text.Cluster

/-!
# Columns

The lines of a text in a column. Only line feeds make a text go on in a new line. Tabs are replaced
by spaces up to the next stop. What does not fit into a column with a width goes to further lines,
word by word, and of a line that does not fit even so the end is left out.

The code points of a line know which code point of the text they stand for, so that it can be told
which parts of the text a line shows. A line is shown in pieces, each in one style. A joiner joins
nothing beyond its piece, so that a line may fit as a whole while its pieces do not.
-/

open SdlPhp.Text (CodePoint)

namespace SdlPhp

/-- A code point in a column, with the index of the one in the text for which it stands; none if it
fills the line. -/
structure Glyph where
  point : CodePoint
  index : Option Nat
  deriving DecidableEq, Repr

namespace Glyph

def ofPoints (ps : List CodePoint) : List Glyph := ps.zipIdx.map fun e => ⟨e.1, some e.2⟩

def points (gs : List Glyph) : List CodePoint := gs.map point

def is (c : Char) (g : Glyph) : Bool := g.point = .char c

def isBlank (g : Glyph) : Bool := g.point.char?.any Text.isBlank

/-- A space in the place of a code point. -/
def space (g : Glyph) : Glyph := { g with point := .char ' ' }

/-- Code points in the places of glyphs. -/
def ofPlaces (ps : List CodePoint) (gs : List Glyph) : List Glyph :=
  ps.zipIdx.map fun e => ⟨e.1, gs[e.2]?.bind index⟩

/-- Spaces that fill a number of cells. -/
def filling (cells : Nat) : List Glyph := List.replicate cells ⟨.char ' ', none⟩

/-- The glyphs without the blanks at their end. -/
def trimEnd (gs : List Glyph) : List Glyph := (gs.reverse.dropWhile isBlank).reverse

def cells (gs : List Glyph) : Nat := Text.cells (points gs)

end Glyph

/-- A line in a column. -/
structure ColumnLine where
  glyphs : List Glyph
  /-- The end of the line has been left out. -/
  isCut : Bool
  deriving DecidableEq, Repr

namespace ColumnLine

/-! ## Dividing -/

/-- The lines of a text. -/
def split : List Glyph → List (List Glyph)
  | [] => [[]]
  | g :: gs =>
    if g.is '\n' then [] :: split gs
    else
      match split gs with
      | [] => [[g]]
      | line :: lines => (g :: line) :: lines

def tabWidth : Nat := 8

/-- A line with spaces in the place of tabs. The open part of the line starts at a column. -/
def expandTabs (column : Nat) (part : List Glyph) : List Glyph → List Glyph
  | [] => part
  | g :: gs =>
    if g.is '\t' then
      let part := part ++ [g.space]
      let reached := column + Glyph.cells part
      let gap := (tabWidth - reached % tabWidth) % tabWidth
      part ++ List.replicate gap g.space ++ expandTabs (reached + gap) [] gs
    else expandTabs column (part ++ [g]) gs

/-- The words with the blanks behind them, the first one also with those before it. -/
def spacedWords (gs : List Glyph) : List (List Glyph) :=
  let (blanks, rest) := gs.span Glyph.isBlank
  match words rest with
  | [] => []
  | w :: ws => (blanks ++ w) :: ws
where
  /-- The words of a line that starts with none of the blanks. -/
  words : List Glyph → List (List Glyph)
    | [] => []
    | g :: gs =>
      match words gs with
      | [] => [[g]]
      | (h :: w) :: ws =>
        if g.isBlank && !h.isBlank then [g] :: (h :: w) :: ws else (g :: h :: w) :: ws
      | [] :: ws => [g] :: ws

/-- The words in lines of a width. The line that is being filled is the last one; `used` is the
number of its cells that are taken. -/
def fill (width used : Nat) (line : List Glyph) : List (List Glyph) → List (List Glyph)
  | [] => [line]
  | w :: ws =>
    if used + Glyph.cells (Glyph.trimEnd w) ≤ width then
      fill width (used + Glyph.cells w) (line ++ w) ws
    else if line.isEmpty then fill width (Glyph.cells w) w ws
    else line :: fill width (Glyph.cells w) w ws

/-! ## Cutting -/

/-- A line without as many of the blanks at its end as it has glyphs more than the width. -/
def crop (width : Nat) (line : List Glyph) : List Glyph :=
  let blanks := line.length - (Glyph.trimEnd line).length
  line.take (line.length - min blanks (line.length - width))

/-- A line cut to a width, with a mark for what is left out. -/
def cut (width : Nat) (line : List Glyph) : ColumnLine :=
  let kept := crop width line
  if Glyph.cells kept ≤ width then ⟨kept, kept.length < line.length⟩
  else
    let shown := Text.front (width - 1) (Text.clusters (Glyph.points kept)) ++ [.char '…']
    ⟨Glyph.ofPlaces shown kept, shown.length < line.length⟩

/-! ## Lines of a text -/

/-- A line in a column with a width. -/
def fit (width : Nat) (line : List Glyph) : List ColumnLine :=
  match spacedWords line with
  | [] => [cut width line]
  | words => (fill width 0 [] words).map (cut width)

/-- The lines of a text in a column, which may have a width. -/
def ofText (width : Option Nat) (cs : List Char) : List ColumnLine :=
  ((split (Glyph.ofPoints (Text.codePoints cs))).map (expandTabs 0 [])).flatMap
    ((width.map fit).getD fun line => [⟨line, false⟩])

/-! ## Pieces -/

/-- The pieces of a line, which ends where its column does; a style may end between two glyphs. -/
def pieces (ends : Glyph → Glyph → Bool) (width : Option Nat) (l : ColumnLine) :
    List (List CodePoint) :=
  let free := (width.getD 0) - Glyph.cells l.glyphs
  ((l.glyphs ++ Glyph.filling free).splitBy (!ends · ·)).map Glyph.points

/-- As much of pieces as goes into a width that they exceed. -/
def cropPieces (width : Nat) : List (List CodePoint) → List CodePoint
  | [] => []
  | p :: ps =>
    let used := Text.cells p
    if used < width then p ++ cropPieces (width - used) ps
    else if used = width then p
    else Text.front width (Text.clusters p)

/-- The code points that are shown of the pieces of a line. -/
def shown (width : Option Nat) (pieces : List (List CodePoint)) : List CodePoint :=
  match width with
  | none => pieces.flatten
  | some width =>
    if (pieces.map Text.cells).foldl (· + ·) 0 ≤ width then pieces.flatten else cropPieces width pieces

end ColumnLine

end SdlPhp
