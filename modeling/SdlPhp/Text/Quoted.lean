import SdlPhp.Text.CodePoint
import SdlPhp.Text.Printable

/-!
# Quoted texts

A text as a literal in a message: between single quotes, or between double quotes if it holds a
single quote and no double quote. The quote, the backslash and the characters that are not
printable are escaped, the latter by the shortest of `\x`, `\u` and `\U` with two, four or eight
hexadecimal digits, as are halves of surrogate pairs.
-/

namespace SdlPhp.Text

def quoteMark (cs : List Char) : Char :=
  if cs.contains '\'' && !cs.contains '"' then '"' else '\''

/-- One character between the quotation marks. -/
def escapeChar (quote c : Char) : List Char :=
  if c = quote || c = '\\' then ['\\', c]
  else if c = '\t' then ['\\', 't']
  else if c = '\n' then ['\\', 'n']
  else if c = '\r' then ['\\', 'r']
  else if isPrintable c then [c]
  else if c.toNat < 0x100 then '\\' :: 'x' :: hexDigits 2 c.toNat
  else if c.toNat < 0x10000 then '\\' :: 'u' :: hexDigits 4 c.toNat
  else '\\' :: 'U' :: hexDigits 8 c.toNat

/-- One code point between the quotation marks. -/
def escapePoint (quote : Char) : CodePoint → List Char
  | .char c => escapeChar quote c
  | .half unit => CodePoint.halfEscape unit

/-- The literal of a text. -/
def quoted (s : String) : String :=
  let quote := quoteMark s.toList
  String.ofList (quote :: ((codePoints s.toList).flatMap (escapePoint quote) ++ [quote]))

end SdlPhp.Text
