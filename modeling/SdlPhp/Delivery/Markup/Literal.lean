import SdlPhp.Text.Alphanumeric
import SdlPhp.Text.CharacterName
import SdlPhp.Text.CodePoint
import SdlPhp.Text.Lines
import SdlPhp.Text.Pieces

/-!
# Literals

The texts that are literals of data: numbers, among them complex ones as sums, texts and bytes
between quotes, the constants, and groups of literals in parentheses and braces. Elements of sets
and keys of mappings cannot be sets or mappings themselves. A literal is not indented.
-/

namespace SdlPhp.Markup.Literal

/-- What is known of a literal. -/
inductive Kind
  | number (isComplex isSigned : Bool)
  | text
  | bytes
  /-- The name of sets, which makes the empty set with parentheses behind it. -/
  | setName
  | constant (isKey : Bool)
  deriving DecidableEq, Repr

/-- The literal may be an element of a set or a key. -/
def Kind.isKey : Kind → Bool
  | setName => false
  | constant isKey => isKey
  | _ => true

/-- The literal in parentheses; quoted texts do not go together any more. -/
def Kind.grouped : Kind → Kind
  | text | bytes => constant true
  | k => k

inductive Token
  | value (k : Kind)
  | sign
  | comma
  | colon
  | opening (isBrace : Bool)
  | closing (isBrace : Bool)
  | lineEnd
  deriving DecidableEq, Repr

/-! ## Numbers -/

/-- A character that goes on with a name or a number. -/
def goesOn (c : Char) : Bool := c.isAlphanum || c == '_' || 128 ≤ c.toNat

/-- Digits with single underscores between them, and what follows. -/
def digits (isDigit : Char → Bool) : List Char → List Char × List Char
  | c :: '_' :: d :: cs =>
    if isDigit c then
      if isDigit d then
        let (ds, rest) := digits isDigit (d :: cs)
        (c :: ds, rest)
      else ([c], '_' :: d :: cs)
    else ([], c :: '_' :: d :: cs)
  | c :: cs =>
    if isDigit c then
      let (ds, rest) := digits isDigit cs
      (c :: ds, rest)
    else ([], c :: cs)
  | [] => ([], [])

/-- A whole number behind the letter of its base; an underscore may follow the letter. -/
def basedNumber? (isDigit : Char → Bool) (cs : List Char) : Option (List Char) :=
  let cs := if cs.head? = some '_' then cs.drop 1 else cs
  let (ds, rest) := digits isDigit cs
  if ds.isEmpty then none else some rest

/-- The longest whole number that is read. -/
def digitLimit : Nat := 4300

/-- Whole digits as a number by themselves: they do not start with a zero, unless all are zeros. -/
def isWhole (ds : List Char) : Bool :=
  (ds.head? ≠ some '0' || ds.all (· == '0')) && ds.length ≤ digitLimit

/-- What follows a fraction behind its point. -/
def afterFraction : List Char → Option (List Char)
  | '.' :: cs => some (digits Char.isDigit cs).2
  | _ => none

/-- What follows an exponent. -/
def afterExponent : List Char → Option (List Char)
  | e :: cs =>
    if e = 'e' || e = 'E' then
      let unsigned := if cs.head? = some '+' || cs.head? = some '-' then cs.drop 1 else cs
      let (ds, rest) := digits Char.isDigit unsigned
      if ds.isEmpty then none else some rest
    else none
  | [] => none

/-- A number in decimal digits, and what follows it. -/
def decimalNumber? (cs : List Char) : Option (Kind × List Char) :=
  let (ds, rest) := digits Char.isDigit cs
  let fraction := afterFraction rest
  let rest := fraction.getD rest
  let exponent := afterExponent rest
  let rest := exponent.getD rest
  match rest with
  | 'j' :: rest | 'J' :: rest => some (.number true false, rest)
  | rest =>
    if fraction.isSome || exponent.isSome || isWhole ds then some (.number false false, rest)
    else none

/-- A number, and what follows it, which may not go on with it. -/
def number? (cs : List Char) : Option (Kind × List Char) := do
  let whole : Kind := .number false false
  let (k, rest) ← match cs with
    | '0' :: 'x' :: cs | '0' :: 'X' :: cs =>
      (basedNumber? (fun c => (Text.hexValue? c).isSome) cs).map (whole, ·)
    | '0' :: 'o' :: cs | '0' :: 'O' :: cs =>
      (basedNumber? (fun c => '0' ≤ c && c ≤ '7') cs).map (whole, ·)
    | '0' :: 'b' :: cs | '0' :: 'B' :: cs =>
      (basedNumber? (fun c => c == '0' || c == '1') cs).map (whole, ·)
    | cs => decimalNumber? cs
  if rest.head?.any goesOn then none else some (k, rest)

/-! ## Quoted texts -/

/-- Hexadecimal digits of a number up to a greatest one, and no more than `width` of them. -/
def isCode (width limit : Nat) (cs : List Char) : Bool :=
  let ds := cs.take width
  ds.length = width && ((Text.hexNumber? ds).any fun n => n ≤ limit)

/-- The name of a character between braces stands at the front of the text. -/
def namesCharacter : List Char → Bool
  | '\x7b' :: cs =>
    let name := cs.takeWhile (· ≠ '\x7d')
    name.length < cs.length && Text.isCharacterName name
  | _ => false

/-- What an escape asks of the characters behind its letter. -/
def escapeHolds (isBytes : Bool) (letter : Char) (cs : List Char) : Bool :=
  match letter with
  | 'x' => isCode 2 0xff cs
  | 'u' => isBytes || isCode 4 0xffff cs
  | 'U' => isBytes || isCode 8 0x10ffff cs
  | 'N' => isBytes || namesCharacter cs
  | _ => true

/-- What follows a quoted text, whose content starts here. -/
def afterQuoted (isRaw isBytes : Bool) (quote : List Char) (cs : List Char) : Option (List Char) :=
  match cs with
  | [] => none
  | c :: cs =>
    if quote.isPrefixOf (c :: cs) then some ((c :: cs).drop quote.length)
    else if isBytes && 128 ≤ c.toNat then none
    else if c = '\n' && quote.length = 1 then none
    else if c = '\\' then
      match cs with
      | [] => none
      | letter :: cs =>
        if isBytes && 128 ≤ letter.toNat then none
        else if isRaw || escapeHolds isBytes letter cs then afterQuoted isRaw isBytes quote cs
        else none
    else afterQuoted isRaw isBytes quote cs

/-- The quotes at the front of a text: one or three. -/
def quote? : List Char → Option (List Char)
  | c :: cs =>
    if c = '"' || c = '\'' then
      some (if [c, c].isPrefixOf cs then [c, c, c] else [c])
    else none
  | [] => none

/-- The letters that may stand before a quoted text, with what they make it: raw or not, bytes or
not. -/
def quotedMarks : List (String × Bool × Bool) :=
  [("", false, false), ("u", false, false), ("r", true, false), ("b", false, true),
   ("br", true, true), ("rb", true, true)]

/-- A quoted text behind its mark, and what follows it. -/
def quoted? (mark cs : List Char) : Option (Kind × List Char) := do
  let quote ← quote? cs
  let (_, isRaw, isBytes) ← quotedMarks.find? (·.1 == String.ofList (mark.map Char.toLower))
  let rest ← afterQuoted isRaw isBytes quote (cs.drop quote.length)
  return (if isBytes then .bytes else .text, rest)

/-! ## Tokens -/

/-- What a name stands for. -/
def named? (name : List Char) : Option Kind :=
  match String.ofList name with
  | "True" | "False" | "None" => some (.constant true)
  | "set" => some .setName
  | _ => none

/-- A token at the front of a text that does not start with a blank, and what follows it. -/
def token? (cs : List Char) : Option (Token × List Char) :=
  match cs with
  | '\n' :: rest => some (.lineEnd, rest)
  | '+' :: rest | '-' :: rest => some (.sign, rest)
  | ',' :: rest => some (.comma, rest)
  | ':' :: rest => some (.colon, rest)
  | '(' :: rest => some (.opening false, rest)
  | ')' :: rest => some (.closing false, rest)
  | '\x7b' :: rest => some (.opening true, rest)
  | '\x7d' :: rest => some (.closing true, rest)
  | '.' :: '.' :: '.' :: rest => some (.value (.constant true), rest)
  | '.' :: d :: _ => if d.isDigit then value (number? cs) else none
  | c :: _ =>
    if c.isDigit then value (number? cs)
    else
      let name := cs.takeWhile goesOn
      let rest := cs.drop name.length
      if (quote? rest).isSome then value (quoted? name rest)
      else value ((named? name).map (·, rest))
  | [] => none
where
  value (found : Option (Kind × List Char)) : Option (Token × List Char) :=
    found.map fun f => (.value f.1, f.2)

/-- The text without blanks, comments and continued lines at its front. -/
def skipBlanks (cs : List Char) : List Char :=
  match cs with
  | ' ' :: cs | '\t' :: cs | '\x0c' :: cs => skipBlanks cs
  | '\\' :: '\n' :: cs => skipBlanks cs
  | '#' :: cs => cs.dropWhile (· ≠ '\n')
  | cs => cs

/-- The tokens of a text. -/
def tokens (cs : List Char) : Option (List Token) :=
  match skipBlanks cs with
  | [] => some []
  | cs' =>
    match token? cs' with
    | some (t, rest) =>
      if rest.length < cs.length then (tokens rest).map (t :: ·) else none
    | none => none
termination_by cs.length

/-! ## Indentation -/

/-- The column behind a tab. -/
def tabStop (column : Nat) : Nat := (column / 8 + 1) * 8

/-- The text without the lines at its front that hold nothing but blanks and comments; none if the
line behind them is indented. `column` is the column that has been reached, and `held` the first one
other than zero at which the line was continued on another one. -/
def afterIdleLines (inComment : Bool) (column held : Nat) : List Char → Option (List Char)
  | [] => some []
  | c :: cs =>
    if c = '\n' then afterIdleLines false 0 0 cs
    else if inComment then afterIdleLines true column held cs
    else if c = ' ' then afterIdleLines false (column + 1) held cs
    else if c = '\t' then afterIdleLines false (tabStop column) held cs
    else if c = '\x0c' then afterIdleLines false 0 held cs
    else if c = '#' then afterIdleLines true column held cs
    else
      match c, cs with
      | '\\', '\n' :: rest => afterIdleLines false column (if held = 0 then column else held) rest
      | c, cs => if held = 0 && column = 0 then some (c :: cs) else none

/-! ## Groups -/

/-- What has been read of an element. -/
inductive Operand
  | absent
  | signed
  | whole (k : Kind)
  /-- A number, and the sign of another one. -/
  | sum (isComplex : Bool)
  deriving DecidableEq, Repr

/-- What has been read of a group. -/
structure Group where
  isBrace : Bool
  operand : Operand := .absent
  hasItems : Bool := false
  /-- All elements may be keys. -/
  allKeys : Bool := true
  /-- The elements are those of a mapping, or of a set, as soon as that is known. -/
  isMapping : Option Bool := none
  /-- A key has been read, and its value has not. -/
  awaitsValue : Bool := false
  deriving Repr

namespace Group

def take (g : Group) (k : Kind) : Option Group :=
  match g.operand, k with
  | .absent, k => some { g with operand := .whole k }
  | .signed, .number isComplex false => some { g with operand := .whole (.number isComplex true) }
  | .whole .text, .text => some g
  | .whole .bytes, .bytes => some g
  | .sum false, .number true false => some { g with operand := .whole (.constant true) }
  | _, _ => none

def takeSign (g : Group) : Option Group :=
  match g.operand with
  | .absent => some { g with operand := .signed }
  | .whole (.number isComplex _) => some { g with operand := .sum isComplex }
  | _ => none

/-- The element that has been read. -/
def element? (g : Group) : Option Kind :=
  match g.operand with
  | .whole .setName => none
  | .whole k => some k
  | _ => none

/-- Ends an element. -/
def endElement (g : Group) : Option Group := do
  let k ← g.element?
  let g := { g with operand := .absent, hasItems := true, allKeys := g.allKeys && k.isKey }
  if !g.isBrace then return g
  else if g.awaitsValue then return { g with awaitsValue := false }
  else if g.isMapping = some true || !k.isKey then none
  else return { g with isMapping := some false }

/-- Makes an element the key of the next one. -/
def endKey (g : Group) : Option Group := do
  let k ← g.element?
  if g.isBrace && !g.awaitsValue && g.isMapping ≠ some false && k.isKey then
    return { g with operand := .absent, isMapping := some true, awaitsValue := true }
  else none

/-- The group holds nothing. -/
def isEmpty (g : Group) : Bool := g.operand = .absent && !g.hasItems && !g.awaitsValue

/-- The literal that a group makes in the end. -/
def close? (g : Group) : Option Kind :=
  if g.isBrace then
    if g.operand = .absent then (if g.awaitsValue then none else some (.constant false))
    else g.endElement.map fun _ => .constant false
  else
    match g.operand, g.hasItems with
    | .absent, _ => some (.constant g.allKeys)
    | .whole k, false => some k.grouped
    | .whole _, true => g.endElement.map fun g => .constant g.allKeys
    | _, _ => none

end Group

/-- The innermost group and the ones around it. -/
structure State where
  group : Group := { isBrace := false }
  around : List Group := []
  /-- A line has ended behind the literal. -/
  isEnded : Bool := false
  deriving Repr

/-- The deepest nesting of groups. -/
def depthLimit : Nat := 200

namespace State

def withGroup (s : State) (g : Option Group) : Option State := g.map fun g => { s with group := g }

def close (s : State) (isBrace : Bool) : Option State :=
  match s.around with
  | [] => none
  | outer :: around => do
    let k ← s.group.close?
    if s.group.isBrace ≠ isBrace then none
    else if outer.operand = .whole .setName && !isBrace && s.group.isEmpty then
      return { s with group := { outer with operand := .whole (.constant false) }, around }
    else return { s with group := ← outer.take k, around }

def step (s : State) (t : Token) : Option State :=
  if t = .lineEnd then
    some { s with isEnded := s.isEnded || (s.around.isEmpty && !s.group.isEmpty) }
  else if s.isEnded then none
  else
    match t with
    | .value k => s.withGroup (s.group.take k)
    | .sign => s.withGroup s.group.takeSign
    | .comma => s.withGroup s.group.endElement
    | .colon => s.withGroup s.group.endKey
    | .opening isBrace =>
      if s.around.length < depthLimit then
        some { s with group := { isBrace }, around := s.group :: s.around }
      else none
    | .closing isBrace => s.close isBrace
    | .lineEnd => some s

/-- The state is that behind one whole literal. -/
def isComplete (s : State) : Bool :=
  s.around.isEmpty && !s.group.isEmpty && (s.group.close?.any fun k => k ≠ .setName)

end State

/-- The text is a literal. -/
def isLiteral (cs : List Char) : Bool :=
  !cs.contains '\x00' && !Text.hasHalf cs &&
    match (afterIdleLines false 0 0 (Text.unifyLineEnds cs)).bind tokens with
    | some ts => (ts.foldlM State.step {}).any State.isComplete
    | none => false

end SdlPhp.Markup.Literal
