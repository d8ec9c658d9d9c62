import SdlPhp.Text.Blank
import SdlPhp.Text.Pieces

/-!
# Indentation

A text is indented by a prefix on each of its lines that is not blank, and its margin, the longest
run of spaces and tabs with which all its lines start, is taken off. Lines of spaces and tabs alone
have no say in the margin and lose their characters.
-/

namespace SdlPhp.Text

def isIndentChar (c : Char) : Bool := c == ' ' || c == '\t'

/-- The spaces and tabs at the start of a line. -/
def leading (line : List Char) : List Char := line.takeWhile isIndentChar

/-- The longest text with which both texts start. -/
def commonPrefix : List Char → List Char → List Char
  | a :: as, b :: bs => if a = b then a :: commonPrefix as bs else []
  | _, _ => []

/-- Nothing but spaces and tabs. -/
def isHollow (line : List Char) : Bool := line.all isIndentChar

/-- A hollow line loses its characters. -/
def blankHollow (line : List Char) : List Char := if isHollow line then [] else line

/-- The longest common start of the leading runs of the given lines. -/
def commonLeading : List (List Char) → List Char
  | [] => []
  | [l] => leading l
  | l :: m :: ls => commonPrefix (leading l) (commonLeading (m :: ls))

/-- The margin of some lines: what the leading runs of those that are not hollow share. -/
def margin (ls : List (List Char)) : List Char := commonLeading (ls.filter (!isHollow ·))

/-- The line without the prefix, if it starts with it. -/
def dropMargin (pre line : List Char) : List Char :=
  if pre.isPrefixOf line then line.drop pre.length else line

/-- The lines without their margin. -/
def dedentLines (ls : List (List Char)) : List (List Char) :=
  (ls.map blankHollow).map (dropMargin (margin ls))

def dedentChars (cs : List Char) : List Char := unlines (dedentLines (lines cs))

/-- The line behind the prefix, unless it is blank. -/
def indentLine (pre line : List Char) : List Char :=
  if allBlank line then line else pre ++ line

def indentChars (pre cs : List Char) : List Char := unlines ((lines cs).map (indentLine pre))

/-- Each line that is not blank behind one prefix. -/
def indentBy (pre text : String) : String := String.ofList (indentChars pre.toList text.toList)

/-- The text with its margin taken off and the prefix put in its place. -/
def reindentBy (pre text : String) : String :=
  String.ofList (indentChars pre.toList (dedentChars text.toList))

/-! ## Prefixes -/

theorem commonPrefix_append (pre as bs : List Char) :
    commonPrefix (pre ++ as) (pre ++ bs) = pre ++ commonPrefix as bs := by
  induction pre with
  | nil => rfl
  | cons c pre ih => simp [commonPrefix, ih]

theorem dropMargin_append (pre line : List Char) : dropMargin pre (pre ++ line) = line := by
  simp [dropMargin]

end SdlPhp.Text
