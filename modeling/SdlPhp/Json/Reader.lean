import SdlPhp.Json.Value
import SdlPhp.Text.Pieces

/-!
# Reading JSON

The reader of the data format. It knows `NaN`, `Infinity` and `-Infinity` as numbers, and of several
values under one key of an object it takes the last. A text that is no value is refused with the
cause and the place of the first fault. Lists and objects may nest as deeply as the room on the stack
of the interpreter allows, of which each of them takes one unit.
-/

open SdlPhp.Text (CodePoint hexNumber? isHighSurrogate isLowSurrogate pairChar)

namespace SdlPhp.Json

/-- Why a text is no value. -/
inductive FaultCause
  | expectingValue
  | expectingName
  | expectingColon
  | expectingComma
  | extraData
  | unterminatedText
  | controlCharacter
  | invalidEscape
  | invalidUnicodeEscape
  | byteOrderMark
  deriving DecidableEq, Repr

/-- A fault is a cause together with what is left of the text at its place, a whole number with too
many digits, or a list or an object for which there is no room. -/
inductive Fault
  | at (cause : FaultCause) (rest : List Char)
  | hugeInteger (digits : Nat)
  | tooDeep (kind : String)
  deriving DecidableEq, Repr

def isSpace (c : Char) : Bool := c == ' ' || c == '\t' || c == '\n' || c == '\r'

def skipSpace (cs : List Char) : List Char := cs.dropWhile isSpace

def digitsValue (ds : List Char) : Nat := ds.foldl (fun n c => n * 10 + (c.toNat - 48)) 0

/-! ## Texts -/

/-- The character after a backslash for a short escape. -/
def shortEscape? (c : Char) : Option Char :=
  match c with
  | '"' => some '"'
  | '\\' => some '\\'
  | '/' => some '/'
  | 'b' => some '\x08'
  | 'f' => some '\x0c'
  | 'n' => some '\n'
  | 'r' => some '\r'
  | 't' => some '\t'
  | _ => none

/-- What an escape `\uXXXX` stands for whose digits start here, and the rest. -/
def unicodeEscape (fromU : List Char) (cs : List Char) : Except Fault (CodePoint × List Char) :=
  if (cs.drop 4).isEmpty then .error (.at .invalidUnicodeEscape fromU)
  else
    match hexNumber? (cs.take 4) with
    | none => .error (.at .invalidUnicodeEscape fromU)
    | some unit =>
      let rest := cs.drop 4
      match rest with
      | '\\' :: 'u' :: more =>
        if isHighSurrogate unit && !(rest.drop 6).isEmpty then
          match hexNumber? (more.take 4) with
          | none => .error (.at .invalidUnicodeEscape ('u' :: more))
          | some second =>
            if isLowSurrogate second then .ok (.char (pairChar unit second), more.drop 4)
            else .ok (.ofUnit unit, rest)
        else .ok (.ofUnit unit, rest)
      | _ => .ok (.ofUnit unit, rest)

/-- The characters up to the closing quote. `opening` is the text from the opening quote on. -/
def readChars (opening : List Char) : Nat → List Char → Except Fault (List Char × List Char)
  | 0, _ => .error (.at .unterminatedText opening)
  | _ + 1, [] => .error (.at .unterminatedText opening)
  | fuel + 1, c :: cs =>
    if c = '"' then .ok ([], cs)
    else if c = '\\' then
      match cs with
      | [] => .error (.at .unterminatedText opening)
      | 'u' :: ds => do
        let (x, rest) ← unicodeEscape cs ds
        let (xs, rest) ← readChars opening fuel rest
        return (x.chars ++ xs, rest)
      | d :: rest =>
        match shortEscape? d with
        | none => .error (.at .invalidEscape (c :: cs))
        | some x => do
          let (xs, rest) ← readChars opening fuel rest
          return (x :: xs, rest)
    else if c.toNat < 32 then .error (.at .controlCharacter (c :: cs))
    else do
      let (xs, rest) ← readChars opening fuel cs
      return (c :: xs, rest)

/-- The text behind an opening quote. -/
def readText (opening : List Char) : Except Fault (String × List Char) := do
  let (xs, rest) ← readChars opening opening.length (opening.drop 1)
  return (String.ofList xs, rest)

/-! ## Numbers -/

/-- The decimals behind a point, if a digit follows the point. -/
def splitFraction (cs : List Char) : List Char × List Char :=
  match cs with
  | '.' :: d :: ds => if d.isDigit then (d :: ds.takeWhile Char.isDigit, ds.dropWhile Char.isDigit)
    else ([], cs)
  | _ => ([], cs)

/-- The exponent, if a digit follows its mark and sign. -/
def splitExponent (cs : List Char) : Option Int × List Char :=
  match cs with
  | e :: rest =>
    if e = 'e' || e = 'E' then
      let (negative, ds) := match rest with
        | '-' :: ds => (true, ds)
        | '+' :: ds => (false, ds)
        | ds => (false, ds)
      match ds.takeWhile Char.isDigit with
      | [] => (none, cs)
      | digits =>
        let n : Int := digitsValue digits
        (some (if negative then -n else n), ds.dropWhile Char.isDigit)
    else (none, cs)
  | [] => (none, cs)

/-- The digits of the whole part: one zero, or digits that start with no zero. -/
def splitWhole (cs : List Char) : Option (List Char × List Char) :=
  match cs with
  | '0' :: rest => some (['0'], rest)
  | d :: _ =>
    if d.isDigit then some (cs.takeWhile Char.isDigit, cs.dropWhile Char.isDigit) else none
  | [] => none

def readNumber (cs : List Char) : Except Fault (Json × List Char) :=
  let (negative, unsigned) := match cs with
    | '-' :: rest => (true, rest)
    | _ => (false, cs)
  match splitWhole unsigned with
  | none => .error (.at .expectingValue cs)
  | some (whole, rest) =>
    let (places, rest) := splitFraction rest
    let (power, rest) := splitExponent rest
    if places.isEmpty && power.isNone then
      if Number.maxDigits < whole.length then .error (.hugeInteger whole.length)
      else
        let n : Int := digitsValue whole
        .ok (.int (if negative then -n else n), rest)
    else
      .ok (.float (Binary64.ofDecimal negative (digitsValue (whole ++ places))
        (power.getD 0 - places.length)), rest)

/-! ## Values -/

/-- What follows the keyword, if the text starts with it. -/
def afterWord? (word : String) (cs : List Char) : Option (List Char) :=
  if word.toList.isPrefixOf cs then some (cs.drop word.length) else none

def keywords : List (String × Json) :=
  [("null", .null), ("true", .bool true), ("false", .bool false), ("NaN", .float .nan),
   ("Infinity", .float (.infinite false)), ("-Infinity", .float (.infinite true))]

/-- A keyword or a number. -/
def readAtom (cs : List Char) : Except Fault (Json × List Char) :=
  match keywords.findSome? fun (word, v) => (afterWord? word cs).map ((v, ·)) with
  | some found => .ok found
  | none => readNumber cs

/-- The room inside of a list or an object. -/
def enter (kind : String) (room : Option Nat) : Except Fault (Option Nat) :=
  match enter? room with
  | some room => .ok room
  | none => .error (.tooDeep kind)

@[simp]
theorem enter_none (kind : String) : enter kind none = .ok none := rfl

mutual

/-- Reads one value; the fuel bounds the number of nested steps. -/
def readValue (room : Option Nat) : Nat → List Char → Except Fault (Json × List Char)
  | 0, cs => .error (.at .expectingValue cs)
  | fuel + 1, cs =>
    match cs with
    | '"' :: _ => do
      let (s, rest) ← readText cs
      return (.text s, rest)
    | '[' :: rest => do
      let room ← enter "array" room
      match skipSpace rest with
      | ']' :: rest => return (.list [], rest)
      | rest =>
        let (items, rest) ← readItems room fuel rest
        return (.list items, rest)
    | '{' :: rest => do
      let room ← enter "object" room
      match skipSpace rest with
      | '}' :: rest => return (.object [], rest)
      | rest =>
        let (fields, rest) ← readFields room fuel rest
        return (.object (Entries.ofPairs fields), rest)
    | _ => readAtom cs

/-- The items of a list up to its closing bracket. -/
def readItems (room : Option Nat) : Nat → List Char → Except Fault (List Json × List Char)
  | 0, cs => .error (.at .expectingValue cs)
  | fuel + 1, cs => do
    let (v, rest) ← readValue room fuel cs
    match skipSpace rest with
    | ']' :: rest => return ([v], rest)
    | ',' :: rest =>
      let (vs, rest) ← readItems room fuel (skipSpace rest)
      return (v :: vs, rest)
    | rest => throw (.at .expectingComma rest)

/-- The fields of an object up to its closing brace. -/
def readFields (room : Option Nat) :
    Nat → List Char → Except Fault (List (String × Json) × List Char)
  | 0, cs => .error (.at .expectingName cs)
  | fuel + 1, cs =>
    match cs with
    | '"' :: _ => do
      let (k, rest) ← readText cs
      match skipSpace rest with
      | ':' :: rest =>
        let (v, rest) ← readValue room fuel (skipSpace rest)
        match skipSpace rest with
        | '}' :: rest => return ([(k, v)], rest)
        | ',' :: rest =>
          let (fs, rest) ← readFields room fuel (skipSpace rest)
          return ((k, v) :: fs, rest)
        | rest => throw (.at .expectingComma rest)
      | rest => throw (.at .expectingColon rest)
    | _ => .error (.at .expectingName cs)

end

/-- The value that the text writes, with nothing but space around it. Nothing is nested too deeply
unless the room is given. -/
def read (cs : List Char) (room : Option Nat := none) : Except Fault Json :=
  match cs with
  | '\ufeff' :: _ => .error (.at .byteOrderMark cs)
  | _ => do
    let (v, rest) ← readValue room (2 * cs.length + 2) (skipSpace cs)
    match skipSpace rest with
    | [] => return v
    | rest => throw (.at .extraData rest)

/-! ## Messages -/

def FaultCause.text : FaultCause → String
  | expectingValue => "Expecting value"
  | expectingName => "Expecting property name enclosed in double quotes"
  | expectingColon => "Expecting ':' delimiter"
  | expectingComma => "Expecting ',' delimiter"
  | extraData => "Extra data"
  | unterminatedText => "Unterminated string starting at"
  | controlCharacter => "Invalid control character at"
  | invalidEscape => "Invalid \\escape"
  | invalidUnicodeEscape => "Invalid \\uXXXX escape"
  | byteOrderMark => "Unexpected UTF-8 BOM (decode using utf-8-sig)"

/-- The place behind a text, as its line, its column and the number of code points before it. -/
def place (before : List Char) : String :=
  let line := before.count '\n' + 1
  let column := Text.count ((Text.lines before).getLastD []) + 1
  s!"line {line} column {column} (char {Text.count before})"

/-- What is wrong with a text that was refused with this fault. -/
def Fault.message (source : List Char) : Fault → String
  | .at cause rest => cause.text ++ ": " ++ place (source.take (source.length - rest.length))
  | .hugeInteger digits => Number.tooLongMessage digits
  | .tooDeep kind =>
    s!"maximum recursion depth exceeded while decoding a JSON {kind} from a unicode string"

end SdlPhp.Json
