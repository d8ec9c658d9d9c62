import SdlPhp.Template
import SdlPhp.Text.Blank

/-!
# Reading templates

The text of a template holds values in double braces, and tags of blocks in braces with percent
signs. The tags of blocks are to leave no trace where they stand on lines of their own: the blanks
between the start of a line and such a tag are left out, and so is the line feed right behind it.
Only names stand in tags; filters, tests, literals, comments and signs for more or less white space
are refused.
-/

namespace SdlPhp.Template

/-- What becomes of white space around the tags of blocks and at the end of a text. -/
structure Spacing where
  /-- The line feed right behind the tag of a block is left out. -/
  trimBlocks : Bool
  /-- The blanks between the start of a line and the tag of a block are left out. -/
  lstripBlocks : Bool
  /-- A line feed at the end of the text is kept. -/
  keepTrailingNewline : Bool
  deriving DecidableEq, Repr

/-- Why a text is no template. -/
inductive ReadFault
  | unclosedTag
  | unknownTag (content : String)
  | unclosedBlock
  deriving DecidableEq, Repr

def ReadFault.message : ReadFault → String
  | unclosedTag => "unexpected end of template"
  | unknownTag content => s!"Encountered unknown tag '{content}'."
  | unclosedBlock => "Unexpected end of template. The innermost block has to be closed."

/-! ## Tokens -/

/-- A part of a text: characters that stand for themselves, or the content of a tag. -/
inductive Token
  | text (cs : List Char)
  | value (content : List Char)
  | block (content : List Char)
  deriving DecidableEq, Repr

/-- What is being read. -/
inductive Place
  /-- Text, which may go on right at the start of a line. -/
  | text (startsLine : Bool)
  | value
  | block
  deriving DecidableEq, Repr

/-- The text before the tag of a block, given from its end. -/
def textBefore (s : Spacing) (startsLine : Bool) (read : List Char) : List Char :=
  let (line, earlier) := read.span (· ≠ '\n')
  if s.lstripBlocks && (startsLine || !earlier.isEmpty) && Text.allBlank line then earlier.reverse
  else read.reverse

/-- The tokens of a text. What has been read at the place is given from its end. -/
def scan (s : Spacing) : Place → List Char → List Char → Except ReadFault (List Token)
  | .text _, read, [] => .ok [.text read.reverse]
  | _, _, [] => .error .unclosedTag
  | .text _, read, '{' :: '{' :: cs => do return .text read.reverse :: (← scan s .value [] cs)
  | .text startsLine, read, '{' :: '%' :: cs => do
    return .text (textBefore s startsLine read) :: (← scan s .block [] cs)
  | .text _, _, '{' :: '#' :: _ => .error (.unknownTag "#")
  | .text startsLine, read, c :: cs => scan s (.text startsLine) (c :: read) cs
  | .value, read, '}' :: '}' :: cs => do
    return .value read.reverse :: (← scan s (.text false) [] cs)
  | .value, read, c :: cs => scan s .value (c :: read) cs
  | .block, read, '%' :: '}' :: '\n' :: cs => do
    let later ← if s.trimBlocks then scan s (.text true) [] cs else scan s (.text false) ['\n'] cs
    return .block read.reverse :: later
  | .block, read, '%' :: '}' :: cs => do
    return .block read.reverse :: (← scan s (.text false) [] cs)
  | .block, read, c :: cs => scan s .block (c :: read) cs

/-! ## Pieces -/

/-- The tag at the start of a block. -/
inductive Opening
  | ifTrue (key : String)
  | forEach (item key : String)
  deriving DecidableEq, Repr

namespace Opening

/-- The block as a piece. -/
def close (body : List Piece) : Opening → Piece
  | ifTrue key => .ifTrue key body
  | forEach item key => .forEach item key body

/-- The word of the tag at the end of the block. -/
def ending : Opening → String
  | ifTrue _ => "endif"
  | forEach _ _ => "endfor"

end Opening

/-- The words in a tag. -/
def words (content : List Char) : List String := (Text.blankWords content).map String.ofList

/-- The words that are no names of values. -/
def constants : List String := ["true", "false", "none", "True", "False", "None"]

def isName (word : String) : Bool :=
  match word.toList with
  | [] => false
  | c :: cs =>
    (c.isAlpha || c == '_') && cs.all (fun d => d.isAlphanum || d == '_') &&
      !constants.contains word

/-- What has been read so far: the pieces of the innermost open block, and the open blocks from the
inside out, each with the pieces before it. -/
structure Building where
  pieces : List Piece := []
  outer : List (Opening × List Piece) := []

namespace Building

def add (b : Building) (p : Piece) : Building := { b with pieces := b.pieces ++ [p] }

def openBlock (b : Building) (o : Opening) : Building where
  pieces := []
  outer := (o, b.pieces) :: b.outer

def step (b : Building) : Token → Except ReadFault Building
  | .text cs => .ok (if cs.isEmpty then b else b.add (.text (String.ofList cs)))
  | .value content =>
    match words content with
    | [key] => if isName key then .ok (b.add (.value key)) else unknown content
    | _ => unknown content
  | .block content =>
    match words content, b.outer with
    | ["if", key], _ => if isName key then .ok (b.openBlock (.ifTrue key)) else unknown content
    | ["for", item, "in", key], _ =>
      if isName item && isName key then .ok (b.openBlock (.forEach item key)) else unknown content
    | [word], (o, before) :: outer =>
      if word = o.ending then .ok ⟨before ++ [o.close b.pieces], outer⟩ else unknown content
    | _, _ => unknown content
where
  unknown (content : List Char) : Except ReadFault Building :=
    .error (.unknownTag (String.ofList content))

end Building

/-- The text without a line feed at its end. -/
def dropNewline (cs : List Char) : List Char :=
  if cs.getLast? = some '\n' then cs.dropLast else cs

/-- The template that a text is. -/
def read (s : Spacing) (source : String) : Except ReadFault (List Piece) := do
  let cs := Text.unifyLineEnds source.toList
  let tokens ← scan s (.text true) [] (if s.keepTrailingNewline then cs else dropNewline cs)
  let b ← tokens.foldlM Building.step {}
  unless b.outer.isEmpty do throw .unclosedBlock
  return b.pieces

/-! ## Rendering by name -/

/-- Why there is no text for a name. -/
inductive Fault
  | missing (name : String)
  | unreadable (fault : ReadFault)
  /-- A value has no items. -/
  | items (fault : Json.ItemsFault)
  deriving Repr

def Fault.message : Fault → String
  | missing name => name
  | unreadable fault => fault.message
  | items fault => fault.message

/-- The white space around the tags of blocks is left out, and that at the end is kept. -/
def spacing : Spacing where
  trimBlocks := true
  lstripBlocks := true
  keepTrailingNewline := true

/-- The text of a named template in a context. -/
def renderNamed (templates : Entries String) (name : String) (context : Context) :
    Except Fault String := do
  match find? templates name with
  | none => throw (.missing name)
  | some source =>
    let pieces ← (read spacing source).mapError .unreadable
    (render context pieces).mapError .items

end SdlPhp.Template
