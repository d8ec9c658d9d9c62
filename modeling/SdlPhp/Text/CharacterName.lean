import SdlPhp.Text.CharacterNameTable
import SdlPhp.Text.Hex
import SdlPhp.Text.Ranges

/-!
# Names of characters

The names that the Unicode standard gives to characters. Those of Hangul syllables are put together
from the names of their letters, those of unified ideographs from their numbers, and all others
stand in a table, for which small letters count as capitals.
-/

namespace SdlPhp.Text

/-! ## Names of the table -/

/-- The value of the small letters before a name. -/
def keptCount (letters : List Char) : Nat :=
  (letters.map fun c => c.toNat - 'a'.toNat).foldl (· + ·) 0

/-- The entries of a line: the number of characters that are kept, and those that are added. -/
def nameEntries (line : List Char) : List (Nat × List Char) :=
  (line.splitBy fun a b => a.isLower || !b.isLower).map fun e =>
    (keptCount (e.takeWhile Char.isLower), e.dropWhile Char.isLower)

/-- The entries stand for the name behind another one. -/
def entriesHave (name previous : List Char) : List (Nat × List Char) → Bool
  | [] => false
  | (kept, added) :: entries =>
    let current := previous.take kept ++ added
    current == name || entriesHave name current entries

def isTableName (name : List Char) : Bool :=
  entriesHave (name.map Char.toUpper) [] (nameLines.flatMap fun line => nameEntries line.toList)

/-! ## Hangul syllables -/

/-- The names of the letters that start a syllable. -/
def hangulStarts : List String :=
  ["G", "GG", "N", "D", "DD", "R", "M", "B", "BB", "S", "SS", "", "J", "JJ", "C", "K", "T", "P",
   "H"]

/-- The names of the letters in the middle of a syllable. -/
def hangulMiddles : List String :=
  ["A", "AE", "YA", "YAE", "EO", "E", "YEO", "YE", "O", "WA", "WAE", "OE", "YO", "U", "WEO", "WE",
   "WI", "YU", "EU", "YI", "I"]

/-- The names of the letters that end a syllable. -/
def hangulEnds : List String :=
  ["", "G", "GG", "GS", "N", "NJ", "NH", "D", "L", "LG", "LM", "LB", "LS", "LT", "LP", "LH", "M",
   "B", "BS", "S", "SS", "NG", "J", "C", "K", "T", "P", "H"]

/-- A letter of the names in the middle of syllables. -/
def isVowelLetter (c : Char) : Bool := "AEIOUWY".toList.contains c

def isSyllable (cs : List Char) : Bool :=
  let start := cs.takeWhile (!isVowelLetter ·)
  let (middle, ending) := (cs.drop start.length).span isVowelLetter
  hangulStarts.contains (String.ofList start) && hangulMiddles.contains (String.ofList middle) &&
    hangulEnds.contains (String.ofList ending)

/-! ## Unified ideographs -/

def ideographRanges : Ranges :=
  [(0x3400, 0x4dbf), (0x4e00, 0x9fff), (0x20000, 0x2a6df), (0x2a700, 0x2b738), (0x2b740, 0x2b81d),
   (0x2b820, 0x2cea1), (0x2ceb0, 0x2ebe0), (0x30000, 0x3134a)]

/-- The number of an ideograph in four or five capital hexadecimal digits. -/
def isIdeographNumber (cs : List Char) : Bool :=
  (cs.length = 4 || cs.length = 5) && !cs.any Char.isLower &&
    ((hexNumber? cs).any fun n => ideographRanges.has (Char.ofNat n))

/-! ## All names -/

/-- What follows the start of a name, if it starts so. -/
def behind? (start : String) (name : List Char) : Option (List Char) :=
  if start.toList.isPrefixOf name then some (name.drop start.length) else none

def isCharacterName (name : List Char) : Bool :=
  ((behind? "HANGUL SYLLABLE " name).any isSyllable) ||
    ((behind? "CJK UNIFIED IDEOGRAPH-" name).any isIdeographNumber) || isTableName name

end SdlPhp.Text
