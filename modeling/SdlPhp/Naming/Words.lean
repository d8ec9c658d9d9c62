import SdlPhp.Text.Blank

/-!
# Words of a name

A name is cut into words of ASCII letters and digits: at every other character, where an upper-case
letter follows a lower-case letter or a digit, and before the last letter of a run of upper-case
letters that a lower-case letter follows. Two passes put a gap at the changes of case, one for each
rule, and a third takes the runs of letters and digits.
-/

namespace SdlPhp.Naming

def isLowerOrDigit (c : Char) : Bool := c.isLower || c.isDigit

/-- Puts a gap between a lower-case letter or digit and the upper-case letter after it. -/
def gapAtRise : List Char → List Char
  | a :: b :: cs =>
    if isLowerOrDigit a && b.isUpper then a :: ' ' :: b :: gapAtRise cs
    else a :: gapAtRise (b :: cs)
  | cs => cs

/-- Puts a gap after an upper-case letter that a capitalised word follows. -/
def gapAtAcronym : List Char → List Char
  | a :: b :: c :: cs =>
    if a.isUpper && b.isUpper && c.isLower then a :: ' ' :: b :: c :: gapAtAcronym cs
    else a :: gapAtAcronym (b :: c :: cs)
  | cs => cs

/-- The words of a name; none of them is empty. -/
def words (name : List Char) : List (List Char) :=
  Text.runs Char.isAlphanum (gapAtAcronym (gapAtRise name))

end SdlPhp.Naming
