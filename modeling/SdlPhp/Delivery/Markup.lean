import SdlPhp.Delivery.Column
import SdlPhp.Delivery.Markup.Emoji
import SdlPhp.Delivery.Markup.Literal
import SdlPhp.Delivery.Markup.Style
import SdlPhp.Text.Lines

/-!
# Markup

The markup of texts on the console. A tag stands in brackets and starts with a small letter or
with one of `#`, `/` and `@`; a tag with a slash closes the last open tag of its style, or the
last open one if it names no style. Tags are not shown. An odd number of backslashes before a tag
makes it text, and of the backslashes before a tag half are shown. In the texts between tags,
names between colons stand for emojis.

The style of a tag has to be known as soon as the tag is open, and that with its parameters where a
line shows a part of the text that the tag encloses.
-/

open SdlPhp.Text (CodePoint)

namespace SdlPhp.Markup

/-! ## Parts -/

/-- A part of a text: characters, or a tag with the number of backslashes before it. -/
inductive Part
  | plain (cs : List Char)
  | tag (backslashes : Nat) (content : List Char)
  deriving DecidableEq, Repr

def startsTag (c : Char) : Bool := ('a' ≤ c && c ≤ 'z') || c == '#' || c == '/' || c == '@'

def isBracket (c : Char) : Bool := c == '[' || c == ']'

/-- The content of a tag at the front of a text, and what follows the tag. -/
def tag? : List Char → Option (List Char × List Char)
  | '[' :: c :: cs =>
    match cs.dropWhile (!isBracket ·) with
    | ']' :: rest => if startsTag c then some (c :: cs.takeWhile (!isBracket ·), rest) else none
    | _ => none
  | _ => none

theorem length_lt_of_tag? {cs content rest : List Char} (h : tag? cs = some (content, rest)) :
    rest.length < cs.length := by
  unfold tag? at h
  split at h
  · rename_i c ds
    split at h
    · rename_i rest' hd
      have hle := (List.dropWhile_sublist (!isBracket ·) (l := ds)).length_le
      rw [hd] at hle
      split at h
      · simp only [Option.some.injEq, Prod.mk.injEq] at h
        rw [← h.2]
        simp only [List.length_cons] at hle ⊢
        omega
      · simp at h
    · simp at h
  · simp at h

def isBackslash (c : Char) : Bool := c == '\\'

/-- The parts with one more character in front of them. -/
def addChar (c : Char) : List Part → List Part
  | .plain cs :: ps => .plain (c :: cs) :: ps
  | ps => .plain [c] :: ps

/-- The parts of a text, from left to right; no two plain ones stand side by side. -/
def parts (cs : List Char) : List Part :=
  match h : tag? (cs.dropWhile isBackslash) with
  | some (content, rest) =>
    have := length_lt_of_tag? h
    have := (List.dropWhile_sublist isBackslash (l := cs)).length_le
    .tag (cs.takeWhile isBackslash).length content :: parts rest
  | none =>
    match cs with
    | [] => []
    | c :: cs => addChar c (parts cs)
termination_by cs.length
decreasing_by
  · omega
  · simp

def backslashes (n : Nat) : List Char := List.replicate n '\\'

/-- A part in which nothing is a tag any more. -/
def Part.escaped : Part → List Char
  | plain cs => cs
  | tag n content => backslashes (2 * n + 1) ++ '[' :: content ++ [']']

/-- A text in which tags are text; a single backslash at the end is doubled. -/
def escape (s : String) : String :=
  let cs := (parts s.toList).flatMap Part.escaped
  let ending := cs.reverse.takeWhile isBackslash
  String.ofList (if ending.length = 1 then cs ++ ['\\'] else cs)

/-! ## Tags -/

/-- Why a text cannot be shown. -/
inductive Fault
  /-- A closing tag that closes nothing. -/
  | unmatched (tag : String)
  /-- The parameters of an event are no literal. -/
  | parameters (text : String)
  /-- A color is given by parts, one of which cannot be read. -/
  | colorPart (fault : PartFault)
  deriving DecidableEq, Repr

def Fault.message : Fault → String
  | unmatched tag => s!"closing tag '[{tag}]' does not match any open tag"
  | parameters text => s!"error parsing '{text}'"
  | colorPart fault => fault.message

/-- An open tag: its style in normal form, and the parameters behind an equals sign. -/
structure Tag where
  name : List Char
  parameters : Option (List Char)
  deriving DecidableEq, Repr

namespace Tag

/-- The tag is that of an event. -/
def isEvent (t : Tag) : Bool := t.name.head? = some '@'

/-- The style of what the tag encloses. -/
def description (t : Tag) : List Char :=
  match t.parameters with
  | none => t.name
  | some ps => t.name ++ ' ' :: ps

def isHandlerChar (c : Char) : Bool := Text.isAlphanumeric c || c == '_' || c == '.'

/-- The literal in the parameters of an event: what stands in parentheses behind the name of a
handler, or else all of them; none if there is only a name. -/
def eventLiteral? (ps : List Char) : Option (List Char) :=
  match ps.dropWhile isHandlerChar with
  | [] => none
  | '(' :: rest =>
    some (if rest.getLast? = some ')' && !rest.contains '\n' then '(' :: rest else ps)
  | _ => some ps

/-- The parameters of an event, if there are any, hold a literal. -/
def hasEvent (t : Tag) : Bool :=
  ((t.parameters.map Text.trim).bind eventLiteral?).all Literal.isLiteral

end Tag

/-! ## Spans -/

/-- The part of a shown text that a tag encloses, by the indices of its code points. -/
structure Span where
  /-- The description of a style; none if the tag is that of an event. -/
  style : Option (List Char)
  start : Nat
  stop : Nat
  deriving DecidableEq, Repr

/-- A text as it is shown, with the parts that tags enclose, sorted by their starts. -/
structure Shown where
  text : List Char
  spans : List Span
  deriving DecidableEq, Repr

namespace Span

def holds (s : Span) (g : Glyph) : Bool := g.index.any fun i => s.start ≤ i && i < s.stop

/-- A line shows a part of the span. -/
def isStyled (s : Span) (line : ColumnLine) : Bool := line.glyphs.any s.holds

/-- A line that is the whole text shows an empty span unless it is cut off before that. -/
def isBareIn (s : Span) (line : ColumnLine) : Bool :=
  s.start = s.stop && (!line.isCut || s.start < line.glyphs.length)

/-- The span starts or stops between two glyphs. -/
def divides (s : Span) (g h : Glyph) : Bool := s.holds g != s.holds h

/-- The span stands behind a glyph. -/
def isBehind (s : Span) (g : Glyph) : Bool := g.index.map (· + 1) = some s.start

/-- What is wrong with the style; a description of no style is passed over. -/
def fault? (s : Span) : Option PartFault := s.style.bind fun description =>
  match Style.normalize description with
  | .ok _ => none
  | .error fault => some fault

end Span

namespace Shown

/-- The lines are the undivided text. -/
def isWhole (s : Shown) (lines : List ColumnLine) : Bool :=
  lines.length = 1 && !s.text.contains '\t'

/-- The spans that a line shows, and the empty ones if the line is the whole text. -/
def spansIn (s : Shown) (whole : Bool) (line : ColumnLine) : List Span :=
  s.spans.filter fun span => span.isStyled line || (whole && span.isBareIn line)

/-- The first fault of the styles that lines show. -/
def fault? (s : Shown) (lines : List ColumnLine) : Option PartFault :=
  lines.findSome? fun line => (s.spansIn (s.isWhole lines) line).findSome? Span.fault?

/-- The code points that a line shows. -/
def line (width : Option Nat) (s : Shown) (whole : Bool) (line : ColumnLine) : List CodePoint :=
  let spans := s.spansIn whole line
  let ends (g h : Glyph) :=
    spans.any fun span => span.divides g h || (span.start = span.stop && span.isBehind g)
  ColumnLine.shown width (line.pieces ends width)

/-- The lines of the text in a column, which may have a width. -/
def lines (width : Option Nat) (s : Shown) : Except Fault (List (List Char)) :=
  let lines := ColumnLine.ofText width s.text
  match s.fault? lines with
  | some fault => .error (.colorPart fault)
  | none => .ok (lines.map fun line => Text.ofCodePoints (s.line width (s.isWhole lines) line))

end Shown

/-! ## Showing -/

/-- A text that has been shown so far. -/
structure Showing where
  /-- The open tags with the places where they start, the last one first. -/
  openTags : List (Tag × Nat) := []
  shown : List Char := []
  /-- What closed tags enclose, the last one first. -/
  spans : List Span := []

/-- The tags without the first one that has the name, and that one. -/
def takeTag (name : List Char) : List (Tag × Nat) → Option ((Tag × Nat) × List (Tag × Nat))
  | [] => none
  | t :: ts =>
    if t.1.name = name then some (t, ts) else (takeTag name ts).map fun r => (r.1, t :: r.2)

/-- Characters that move a cursor are not shown. -/
def movesCursor (c : Char) : Bool :=
  c.toNat == 7 || c.toNat == 8 || c.toNat == 11 || c.toNat == 12 || c.toNat == 13

/-- The text without the backslashes before brackets. -/
def unescapeBrackets : List Char → List Char
  | '\\' :: '[' :: cs => '[' :: unescapeBrackets cs
  | c :: cs => c :: unescapeBrackets cs
  | [] => []

namespace Showing

/-- Shows text between tags. -/
def add (s : Showing) (cs : List Char) : Showing :=
  { s with shown := s.shown ++ (withEmojis (unescapeBrackets cs)).filter (!movesCursor ·) }

def normalize (name : List Char) : Except Fault (List Char) :=
  (Style.normalize name).mapError .colorPart

/-- The place that the text has reached. -/
def place (s : Showing) : Nat := Text.count s.shown

def openTag (s : Showing) (name : List Char) (parameters : Option (List Char)) :
    Except Fault Showing := do
  return { s with openTags := (⟨← normalize name, parameters⟩, s.place) :: s.openTags }

/-- What an open tag encloses so far. -/
def span (s : Showing) (t : Tag × Nat) : Span := ⟨some t.1.description, t.2, s.place⟩

/-- Closes the last open tag of a style, or the last one if no style is given. -/
def closeTag (s : Showing) (name content : List Char) : Except Fault Showing := do
  let unmatched := Fault.unmatched (String.ofList content)
  let (t, openTags) ← match name, s.openTags with
    | [], [] => throw unmatched
    | [], t :: ts => pure (t, ts)
    | name, ts =>
      match takeTag (← normalize name) ts with
      | some found => pure found
      | none => throw unmatched
  if t.1.isEvent && !t.1.hasEvent then
    throw (.parameters (String.ofList (t.1.parameters.getD [])))
  let span := s.span t
  let span := if t.1.isEvent then { span with style := none } else span
  return { s with openTags, spans := span :: s.spans }

/-- Goes on with the tag of some content. -/
def enter (s : Showing) (content : List Char) : Except Fault Showing :=
  match Text.cutFirst '=' content with
  | ('/' :: name, _) => s.closeTag (Text.trim name) content
  | (name, parameters) => s.openTag name parameters

def step (s : Showing) : Part → Except Fault Showing
  | .plain cs => .ok (s.add cs)
  | .tag n content =>
    let s := { s with shown := s.shown ++ backslashes (n / 2) }
    if n % 2 = 1 then .ok (s.add ('[' :: content ++ [']'])) else s.enter content

/-- The text as it is shown in the end. -/
def done (s : Showing) : Shown where
  text := s.shown
  spans := (s.openTags.reverse.map s.span ++ s.spans).mergeSort fun a b => a.start ≤ b.start

end Showing

/-- The text that is shown of one with markup. -/
def shown (markup : String) : Except Fault Shown :=
  ((parts markup.toList).foldlM Showing.step {}).map Showing.done

/-! ## Lines -/

/-- A line with single spaces between its words. -/
def tidy (line : List Char) : List Char := Text.join ' ' (Text.blankWords line)

/-- The line holds nothing but rules. -/
def isRule (line : List Char) : Bool := line.all fun c => c == '─' || c == ' '

/-- The lines of a shown text that hold something. -/
def textLines (shownText : String) : List String :=
  (((Text.splitLines shownText.toList).map tidy).filter (!isRule ·)).map String.ofList

/-- The lines that a text with markup is shown as. -/
def lines (markup : String) : Except Fault (List String) := do
  let lines ← (← shown markup).lines none
  return textLines (String.ofList (Text.unlines lines))

end SdlPhp.Markup
