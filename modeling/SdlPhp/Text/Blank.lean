import SdlPhp.Text.Ranges

/-!
# Blank characters

The white space of the Unicode standard together with the four information separators U+001C to
U+001F, and the texts cut off at their ends or split at it.
-/

namespace SdlPhp.Text

def blankRanges : Ranges :=
  [(0x9, 0xd), (0x1c, 0x20), (0x85, 0x85), (0xa0, 0xa0), (0x1680, 0x1680), (0x2000, 0x200a),
   (0x2028, 0x2029), (0x202f, 0x202f), (0x205f, 0x205f), (0x3000, 0x3000)]

def isBlank (c : Char) : Bool := blankRanges.has c

/-- The text has no character but blanks. -/
def allBlank (cs : List Char) : Bool := cs.all isBlank

def trimStart (cs : List Char) : List Char := cs.dropWhile isBlank

def trimEnd (cs : List Char) : List Char := (cs.reverse.dropWhile isBlank).reverse

def trim (cs : List Char) : List Char := trimEnd (trimStart cs)

/-- The text without the characters `c` at its end. -/
def dropTrailing (c : Char) (cs : List Char) : List Char :=
  (cs.reverse.dropWhile (· == c)).reverse

/-- The maximal runs of characters with property `p`. -/
def runs (p : Char → Bool) : List Char → List (List Char)
  | [] => []
  | c :: cs =>
    if p c then
      match cs, runs p cs with
      | d :: _, w :: ws => if p d then (c :: w) :: ws else [c] :: w :: ws
      | _, ws => [c] :: ws
    else runs p cs

/-- The words of a text: its runs of characters that are not blank. -/
def blankWords (cs : List Char) : List (List Char) := runs (fun c => !isBlank c) cs

end SdlPhp.Text
