import SdlPhp.Sdl.Document
import SdlPhp.Text.CodePoint
import SdlPhp.Text.Lines

/-!
# Literals as text

A literal as the schema language writes it. A string stands on one line with escapes; a block string
keeps its lines and takes further line ends where its content could be misread without them.
-/

namespace SdlPhp.Sdl

/-! ## Strings -/

/-- A character of a string literal. -/
def writeChar (c : Char) : List Char :=
  if c = '"' then ['\\', '"']
  else if c = '\\' then ['\\', '\\']
  else if c = '\n' then ['\\', 'n']
  else if c = '\r' then ['\\', 'r']
  else if c = '\t' then ['\\', 't']
  else if c.toNat = 8 then ['\\', 'b']
  else if c.toNat = 12 then ['\\', 'f']
  else if c.toNat < 32 || (127 ≤ c.toNat && c.toNat < 160) then
    '\\' :: 'u' :: (Text.hexDigits 4 c.toNat).map Char.toUpper
  else [c]

def stringText (s : String) : String :=
  String.ofList ('"' :: (s.toList.flatMap writeChar ++ ['"']))

/-! ## Block strings -/

/-- Three quotes within a block string stand behind a backslash. -/
def escapeQuotes : List Char → List Char
  | [] => []
  | '"' :: '"' :: '"' :: cs => '\\' :: '"' :: '"' :: '"' :: escapeQuotes cs
  | c :: cs => c :: escapeQuotes cs

/-- The line is empty or starts with a blank. -/
def startsBlank (line : List Char) : Bool :=
  match line with
  | [] => true
  | c :: _ => c == ' ' || c == '\t'

/-- A block string. Its content stands on lines of its own if it has several lines, is long or ends
in a character that would run into the closing quotes; a line end in front keeps the indentation of
the lines behind the first. -/
def blockText (s : String) : String :=
  let cs := s.toList
  let escaped := escapeQuotes cs
  let ls := Text.splitLines escaped
  let isSingle := ls.length ≤ 1
  let isIndented := !isSingle && ls.tail.all startsBlank
  let endsInQuotes := ['"', '"', '"', '\\'].isPrefixOf escaped.reverse
  let endsOpen := (cs.getLast? == some '"' && !endsInQuotes) || cs.getLast? == some '\\'
  let spreads := !isSingle || 70 < Text.count cs || endsOpen || endsInQuotes
  let keepsStart := isSingle && !cs.isEmpty && startsBlank cs
  let before := if (spreads && !keepsStart) || isIndented then ['\n'] else []
  let behind := if spreads then ['\n'] else []
  let quotes := ['"', '"', '"']
  String.ofList (quotes ++ before ++ escaped ++ behind ++ quotes)

/-! ## Literals -/

namespace Literal

mutual

def text : Literal → String
  | .variableRef name => "$" ++ name
  | .int digits => digits
  | .float digits => digits
  | .string value block => if block then blockText value else stringText value
  | .bool b => if b then "true" else "false"
  | .null => "null"
  | .enum name => name
  | .list items => "[" ++ ", ".intercalate (itemTexts items) ++ "]"
  | .object fields => "\x7b" ++ ", ".intercalate (fieldTexts fields) ++ "\x7d"

def itemTexts : List Literal → List String
  | [] => []
  | v :: vs => text v :: itemTexts vs

def fieldTexts : List (String × Literal) → List String
  | [] => []
  | (k, v) :: fs => (k ++ ": " ++ text v) :: fieldTexts fs

end

end Literal

end SdlPhp.Sdl
