/-!
# Lines

A text is cut into lines at every character that may end a line, in any script: the line feed, the
carriage return, which forms one line end with a line feed behind it, the vertical tab, the form
feed, three of the information separators, the next line character, and the line and paragraph
separators. What follows the last line end is a line only if there is anything.
-/

namespace SdlPhp.Text

def isLineBreak (c : Char) : Bool :=
  (0xa ≤ c.toNat && c.toNat ≤ 0xd) || (0x1c ≤ c.toNat && c.toNat ≤ 0x1e) || c.toNat == 0x85 ||
    c.toNat == 0x2028 || c.toNat == 0x2029

/-- The lines of a text. -/
def splitLines : List Char → List (List Char)
  | [] => []
  | '\r' :: '\n' :: cs => [] :: splitLines cs
  | c :: cs =>
    if isLineBreak c then [] :: splitLines cs
    else
      match splitLines cs with
      | [] => [[c]]
      | l :: ls => (c :: l) :: ls

end SdlPhp.Text
