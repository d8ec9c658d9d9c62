import SdlPhp.Json.Value

/-!
# Writing JSON

A value as text in the data format: on lines, each level of nesting two columns further in, or as
characters on one line. Every character is written as it is but for the quote, the backslash and the
control characters and, on one line, halves of surrogate pairs.
-/

namespace SdlPhp.Json

def escapeChar (c : Char) : List Char :=
  if c = '"' then ['\\', '"']
  else if c = '\\' then ['\\', '\\']
  else if c = '\n' then ['\\', 'n']
  else if c = '\r' then ['\\', 'r']
  else if c = '\t' then ['\\', 't']
  else if c.toNat = 8 then ['\\', 'b']
  else if c.toNat = 12 then ['\\', 'f']
  else if c.toNat < 32 then '\\' :: 'u' :: Text.hexDigits 4 c.toNat
  else [c]

def writeText (s : String) : String :=
  String.ofList ('"' :: (s.toList.flatMap escapeChar ++ ['"']))

/-- A code point where halves of surrogate pairs are escaped too. -/
def escapePoint : Text.CodePoint → List Char
  | .char c => escapeChar c
  | .half unit => Text.CodePoint.halfEscape unit

/-- The characters of a text on one line. -/
def compactText (s : String) : String :=
  String.ofList ('"' :: ((Text.codePoints s.toList).flatMap escapePoint ++ ['"']))

/-- A line break and the columns of a level. -/
def lineBreak (level : Nat) : String := "\n" ++ String.ofList (List.replicate (2 * level) ' ')

/-- What stands between the items of a level. -/
def separator (level : Nat) : String := "," ++ lineBreak (level + 1)

/-! ## On lines

A value is written piece by piece. A text that is an item goes in one piece with what stands before
it, while one in a field is a piece of its own. -/

mutual

/-- The pieces of a value on a level. -/
def pieces (level : Nat) : Json → List String
  | null => ["null"]
  | bool b => [if b then "true" else "false"]
  | int n => [Number.intText n]
  | float x => [FloatLayout.json.text x]
  | text s => [writeText s]
  | list [] => ["[]"]
  | list (v :: vs) =>
    itemPieces level ("[" ++ lineBreak (level + 1)) (v :: vs) ++ [lineBreak level ++ "]"]
  | object [] => ["\x7b\x7d"]
  | object (f :: fs) =>
    fieldPieces level ("\x7b" ++ lineBreak (level + 1)) (f :: fs) ++ [lineBreak level ++ "\x7d"]

/-- The pieces of items, the first of which stands behind a text. -/
def itemPieces (level : Nat) (before : String) : List Json → List String
  | [] => []
  | text s :: vs => (before ++ writeText s) :: itemPieces level (separator level) vs
  | v :: vs => before :: (pieces (level + 1) v ++ itemPieces level (separator level) vs)

/-- The pieces of fields, the first of which stands behind a text. -/
def fieldPieces (level : Nat) (before : String) : List (String × Json) → List String
  | [] => []
  | (k, v) :: fs =>
    [before, writeText k, ": "] ++ pieces (level + 1) v ++ fieldPieces level (separator level) fs

end

/-- The text of a value. -/
def write (v : Json) : String := String.join (pieces 0 v)

/-! ## On one line -/

mutual

/-- The characters of a value on one line. -/
def compact : Json → String
  | null => "null"
  | bool b => if b then "true" else "false"
  | int n => Number.intText n
  | float x => FloatLayout.json.text x
  | text s => compactText s
  | list items => "[" ++ ",".intercalate (compactItems items) ++ "]"
  | object fields => "\x7b" ++ ",".intercalate (compactFields fields) ++ "\x7d"

def compactItems : List Json → List String
  | [] => []
  | v :: vs => compact v :: compactItems vs

def compactFields : List (String × Json) → List String
  | [] => []
  | (k, v) :: fs => (compactText k ++ ":" ++ compact v) :: compactFields fs

end

end SdlPhp.Json
