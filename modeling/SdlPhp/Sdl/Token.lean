import SdlPhp.Text.CodePoint
import SdlPhp.Text.Pieces

/-!
# Tokens of the schema language

Tokens, how messages describe them, and the reading of a text as a sequence of tokens. Blanks,
commas, byte order marks, line ends and comments stand between tokens and are skipped. A half of a
surrogate pair may stand nowhere. A text that cannot be read further ends its sequence with the
fault, so that what comes before can still be used.
-/

open SdlPhp.Text (CodePoint)

namespace SdlPhp.Sdl

inductive Punct
  | bang | dollar | amp | parenL | parenR | spread | colon | equals | atSign
  | bracketL | bracketR | braceL | pipe | braceR
  deriving DecidableEq, Repr

def Punct.text : Punct → String
  | bang => "!"
  | dollar => "$"
  | amp => "&"
  | parenL => "("
  | parenR => ")"
  | spread => "..."
  | colon => ":"
  | equals => "="
  | atSign => "@"
  | bracketL => "["
  | bracketR => "]"
  | braceL => "\x7b"
  | pipe => "|"
  | braceR => "\x7d"

inductive Token
  | punct (p : Punct)
  | name (text : String)
  | int (text : String)
  | float (text : String)
  | string (value : String)
  | blockString (value : String)
  deriving DecidableEq, Repr

/-- The text that a token carries; punctuators carry none. -/
def Token.value? : Token → Option String
  | punct _ => none
  | name s => some s
  | int s => some s
  | float s => some s
  | string s => some s
  | blockString s => some s

/-- How a message calls a token, or the end of the text where there is none. -/
def describe : Option Token → String
  | none => "<EOF>"
  | some (.punct p) => s!"'{p.text}'"
  | some (.name s) => s!"Name '{s}'"
  | some (.int s) => s!"Int '{s}'"
  | some (.float s) => s!"Float '{s}'"
  | some (.string s) => s!"String '{s}'"
  | some (.blockString s) => s!"BlockString '{s}'"

/-- Why no token can be read. -/
inductive LexFault
  | unexpectedCharacter (c : Char)
  | invalidCharacter (half : Nat)
  | digitAfterZero (c : Char)
  | expectedDigit (found : Option CodePoint)
  | unterminatedString
  | invalidInString (half : Nat)
  | invalidEscape (text : String)
  | invalidUnicodeEscape (text : String)
  /-- The text ends within an escape. -/
  | truncatedEscape
  deriving DecidableEq, Repr

/-- The number of a code point, as a message shows it. -/
def showNumber (n : Nat) : String :=
  let digits := (Nat.toDigits 16 n).map Char.toUpper
  String.ofList ('U' :: '+' :: (List.replicate (4 - digits.length) '0' ++ digits))

/-- How a message shows a code point: as it is if it is printable ASCII, else by its number. -/
def showPoint : Option CodePoint → String
  | none => "<EOF>"
  | some (.half unit) => showNumber unit
  | some (.char c) =>
    if 32 ≤ c.toNat && c.toNat ≤ 126 then String.ofList ['\'', c, '\''] else showNumber c.toNat

def LexFault.message : LexFault → String
  | unexpectedCharacter c =>
    if c = '\'' then
      "Unexpected single quote character ('), did you mean to use a double quote (\")?"
    else s!"Unexpected character: {showPoint (some (.char c))}."
  | invalidCharacter half => s!"Invalid character: {showNumber half}."
  | digitAfterZero c => s!"Invalid number, unexpected digit after 0: {showPoint (some (.char c))}."
  | expectedDigit found => s!"Invalid number, expected digit but got: {showPoint found}."
  | unterminatedString => "Unterminated string."
  | invalidInString half => s!"Invalid character within String: {showNumber half}."
  | invalidEscape text => s!"Invalid character escape sequence: '{text}'."
  | invalidUnicodeEscape text => s!"Invalid Unicode escape sequence: '{text}'."
  | truncatedEscape => "string index out of range"

/-- A sequence of tokens that ends with the text or with a fault. With each token goes the text that
starts with it. -/
inductive Tokens
  | done
  | broken (fault : LexFault)
  | more (token : Token) (text : List Char) (rest : Tokens)
  deriving DecidableEq, Repr

namespace Tokens

def length : Tokens → Nat
  | done => 0
  | broken _ => 0
  | more _ _ rest => rest.length + 1

/-- The next token; none at the end. -/
def head? : Tokens → Option Token
  | more t _ _ => some t
  | _ => none

/-- How many characters of the text are left from the next token on. -/
def left : Tokens → Nat
  | more _ text _ => text.length
  | _ => 0

end Tokens

/-! ## Character classes -/

def isIgnored (c : Char) : Bool :=
  c == ' ' || c == '\t' || c == ',' || c == '\ufeff' || c == '\n' || c == '\r'

def isLineEnd (c : Char) : Bool := c == '\n' || c == '\r'

def isNameStart (c : Char) : Bool := c.isAlpha || c == '_'

def isNameChar (c : Char) : Bool := c.isAlphanum || c == '_'

/-- A name of the schema language: letters, digits and underscores that start with no digit. -/
def isName : List Char → Bool
  | [] => false
  | c :: cs => isNameStart c && cs.all isNameChar

/-- The text from its next token on. `inComment` tells that the text starts within a comment, which
a half of a surrogate pair ends. -/
def skipIgnored (inComment : Bool) : List Char → List Char
  | [] => []
  | [c] => if inComment || isIgnored c || c = '#' then [] else [c]
  | c :: d :: cs =>
    if c = Text.mark then if inComment && d = Text.mark then skipIgnored true cs else c :: d :: cs
    else if inComment then skipIgnored (!isLineEnd c) (d :: cs)
    else if isIgnored c then skipIgnored false (d :: cs)
    else if c = '#' then skipIgnored true (d :: cs)
    else c :: d :: cs

/-! ## Numbers -/

/-- The digits at the start, of which there must be one. -/
def lexDigits (cs : List Char) : Except LexFault (List Char × List Char) :=
  match cs.takeWhile Char.isDigit with
  | [] => .error (.expectedDigit ((Text.first? cs).map Prod.fst))
  | ds => .ok (ds, cs.dropWhile Char.isDigit)

/-- A zero alone, or digits that do not start with zero. -/
def lexWhole (cs : List Char) : Except LexFault (List Char × List Char) :=
  match cs with
  | '0' :: d :: rest => if d.isDigit then .error (.digitAfterZero d) else .ok (['0'], d :: rest)
  | _ => lexDigits cs

def lexFraction (cs : List Char) : Except LexFault (List Char × List Char) :=
  match cs with
  | '.' :: rest => do
    let (ds, rest) ← lexDigits rest
    return ('.' :: ds, rest)
  | _ => .ok ([], cs)

def lexExponent (cs : List Char) : Except LexFault (List Char × List Char) :=
  match cs with
  | e :: rest =>
    if e = 'e' || e = 'E' then
      let (sign, rest) := match rest with
        | '+' :: r => (['+'], r)
        | '-' :: r => (['-'], r)
        | r => ([], r)
      do
        let (ds, rest) ← lexDigits rest
        return (e :: (sign ++ ds), rest)
    else .ok ([], cs)
  | [] => .ok ([], cs)

/-- A number; neither a point nor a letter may follow it. -/
def lexNumber (cs : List Char) : Except LexFault (Token × List Char) := do
  let (sign, rest) := match cs with
    | '-' :: r => (['-'], r)
    | _ => ([], cs)
  let (whole, rest) ← lexWhole rest
  let (fraction, rest) ← lexFraction rest
  let (exponent, rest) ← lexExponent rest
  let text := String.ofList (sign ++ whole ++ fraction ++ exponent)
  let token := if fraction.isEmpty && exponent.isEmpty then Token.int text else Token.float text
  match rest with
  | c :: _ => if c = '.' || isNameStart c then throw (.expectedDigit (some (.char c)))
  | [] => pure ()
  return (token, rest)

/-! ## Strings -/

/-- The character that a backslash and one more character stand for. -/
def shortEscape? (c : Char) : Option Char :=
  match c with
  | '"' => some '"'
  | '/' => some '/'
  | '\\' => some '\\'
  | 'b' => some '\x08'
  | 'f' => some '\x0c'
  | 'n' => some '\n'
  | 'r' => some '\r'
  | 't' => some '\t'
  | _ => none

def isScalar (n : Nat) : Bool := n ≤ 0xd7ff || (0xe000 ≤ n && n ≤ 0x10ffff)

def invalidUnicode (cs : List Char) (size : Nat) : LexFault :=
  .invalidUnicodeEscape (String.ofList (Text.takePoints size cs))

/-- An escape `\u{…}` of at most twelve characters. -/
def lexBracedEscape (cs : List Char) : Except LexFault (Char × List Char) :=
  let window := (Text.takePoints 12 cs).drop 3
  let ds := window.takeWhile fun c => (Text.hexValue? c).isSome
  match window.drop ds.length, Text.hexNumber? ds with
  | [], _ => .error (invalidUnicode cs (ds.length + 3))
  | '}' :: _, some n =>
    if !ds.isEmpty && isScalar n then .ok (Char.ofNat n, cs.drop (ds.length + 4))
    else .error (invalidUnicode cs (ds.length + 4))
  | _, _ => .error (invalidUnicode cs (ds.length + 4))

/-- An escape `\uXXXX`, or two of them that form a surrogate pair. -/
def lexFixedEscape (cs : List Char) : Except LexFault (Char × List Char) :=
  let digits := cs.drop 2
  if Text.count (Text.takePoints 4 digits) < 4 then .error .truncatedEscape
  else
    match Text.hexNumber? (digits.take 4) with
    | none => .error (invalidUnicode cs 6)
    | some n =>
      if isScalar n then .ok (Char.ofNat n, digits.drop 4)
      else
        match Text.isHighSurrogate n, digits.drop 4 with
        | true, '\\' :: 'u' :: more =>
          if Text.count (Text.takePoints 4 more) < 4 then .error .truncatedEscape
          else
            match Text.hexNumber? (more.take 4) with
            | some low =>
              if Text.isLowSurrogate low then .ok (Text.pairChar n low, more.drop 4)
              else .error (invalidUnicode cs 6)
            | none => .error (invalidUnicode cs 6)
        | _, _ => .error (invalidUnicode cs 6)

/-- The escape at the start of the text, which is a backslash. -/
def lexEscape (cs : List Char) : Except LexFault (Char × List Char) :=
  match cs.drop 1 with
  | 'u' :: '{' :: _ => lexBracedEscape cs
  | 'u' :: _ => lexFixedEscape cs
  | d :: rest =>
    match shortEscape? d with
    | some c => .ok (c, rest)
    | none => .error (.invalidEscape (String.ofList (Text.takePoints 2 cs)))
  | [] => .error .truncatedEscape

/-- The value of a string from behind its opening quote on; it ends on its line. -/
def lexString : Nat → List Char → Except LexFault (List Char × List Char)
  | 0, _ => .error .unterminatedString
  | fuel + 1, cs =>
    match Text.first? cs with
    | none => .error .unterminatedString
    | some (.half unit, _) => .error (.invalidInString unit)
    | some (.char c, rest) =>
      if c = '"' then .ok ([], rest)
      else if isLineEnd c then .error .unterminatedString
      else do
        let (x, rest) ← if c = '\\' then lexEscape cs else pure (c, rest)
        let (xs, rest) ← lexString fuel rest
        return (Text.ofChars [x] ++ xs, rest)

/-! ## Block strings -/

/-- The text up to the closing three quotes, where `\"""` stands for three quotes. -/
def splitBlock : List Char → Except LexFault (List Char × List Char)
  | '"' :: '"' :: '"' :: rest => .ok ([], rest)
  | '\\' :: '"' :: '"' :: '"' :: rest =>
    (splitBlock rest).map fun (xs, rest) => ('"' :: '"' :: '"' :: xs, rest)
  | c :: d :: cs =>
    if c = Text.mark then
      match Text.CodePoint.ofMarked d with
      | .half unit => .error (.invalidInString unit)
      | .char _ => (splitBlock cs).map fun (xs, rest) => (c :: d :: xs, rest)
    else (splitBlock (d :: cs)).map fun (xs, rest) => (c :: xs, rest)
  | _ => .error .unterminatedString

def isColumnBlank (c : Char) : Bool := c == ' ' || c == '\t'

def isEmptyLine (line : List Char) : Bool := line.all isColumnBlank

/-- The least indentation of the lines with content. -/
def commonIndent (ls : List (List Char)) : Option Nat :=
  ((ls.filter (!isEmptyLine ·)).map fun l => (l.takeWhile isColumnBlank).length).min?

/-- The lines without their common indentation, which the first line has no part in, and without
the empty lines at both ends. -/
def dedentBlock : List (List Char) → List (List Char)
  | [] => []
  | first :: others =>
    let dedented := match commonIndent others with
      | some n => first :: others.map (List.drop n)
      | none => first :: others.map fun _ => []
    ((dedented.dropWhile isEmptyLine).reverse.dropWhile isEmptyLine).reverse

def blockValue (raw : List Char) : String :=
  String.ofList (Text.unlines (dedentBlock (Text.lines (Text.unifyLineEnds raw))))

/-! ## Texts -/

def punctOf? (c : Char) : Option Punct :=
  match c with
  | '!' => some .bang
  | '$' => some .dollar
  | '&' => some .amp
  | '(' => some .parenL
  | ')' => some .parenR
  | ':' => some .colon
  | '=' => some .equals
  | '@' => some .atSign
  | '[' => some .bracketL
  | ']' => some .bracketR
  | '{' => some .braceL
  | '|' => some .pipe
  | '}' => some .braceR
  | _ => none

/-- The token at the start of the text, whose first character is `c`. -/
def lexToken (c : Char) (cs : List Char) : Except LexFault (Token × List Char) :=
  match punctOf? c with
  | some p => .ok (.punct p, cs)
  | none =>
    if c.isDigit || c = '-' then lexNumber (c :: cs)
    else if isNameStart c then
      .ok (.name (String.ofList (c :: cs.takeWhile isNameChar)), cs.dropWhile isNameChar)
    else
      match c, cs with
      | '.', '.' :: '.' :: rest => .ok (.punct .spread, rest)
      | '"', '"' :: '"' :: rest =>
        (splitBlock rest).map fun (raw, rest) => (.blockString (blockValue raw), rest)
      | '"', _ => do
        let (xs, rest) ← lexString (cs.length + 1) cs
        return (.string (String.ofList xs), rest)
      | _, _ =>
        match Text.first? (c :: cs) with
        | some (.half unit, _) => .error (.invalidCharacter unit)
        | _ => .error (.unexpectedCharacter c)

/-- The tokens of the text; the fuel bounds their number. -/
def tokensFrom : Nat → List Char → Tokens
  | 0, _ => .done
  | fuel + 1, cs =>
    match skipIgnored false cs with
    | [] => .done
    | c :: cs =>
      match lexToken c cs with
      | .error fault => .broken fault
      | .ok (token, rest) => .more token (c :: cs) (tokensFrom fuel rest)

/-- The tokens of a text. -/
def tokens (source : String) : Tokens := tokensFrom (source.toList.length + 1) source.toList

end SdlPhp.Sdl
