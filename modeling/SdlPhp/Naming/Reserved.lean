import SdlPhp.Text.Blank
import SdlPhp.Text.LowerCase

/-!
# Reserved words

Words that may not be used as they are. A name is compared with them without the blanks at its ends
and without regard to letter case; one that collides is written behind a prefix.
-/

namespace SdlPhp

/-- Words that may not be used as names, in lower case, and the prefix that escapes them. -/
structure ReservedWords where
  words : List String
  escapePrefix : String
  deriving DecidableEq, Repr

namespace ReservedWords

/-- What is compared: the name without blanks at its ends, in lower case. -/
def fold (name : String) : String :=
  String.ofList (Text.lowerCase (Text.trim name.toList))

/-- The words are lower-cased, and the blanks at their ends are kept. -/
def ofWords (ws : List String) (escapePrefix : String := "_") : ReservedWords where
  words := ws.map fun w => String.ofList (Text.lowerCase w.toList)
  escapePrefix := escapePrefix

def isReserved (r : ReservedWords) (name : String) : Bool := r.words.contains (fold name)

/-- A reserved name without its outer blanks behind the prefix; any other name as it is. -/
def escape (r : ReservedWords) (name : String) : String :=
  if r.isReserved name then r.escapePrefix ++ String.ofList (Text.trim name.toList) else name

/-- The words that name no case of an enumeration. -/
def caseNames : ReservedWords := ⟨["class", "new"], "_"⟩

end ReservedWords

end SdlPhp
