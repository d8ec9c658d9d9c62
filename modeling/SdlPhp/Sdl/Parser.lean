import SdlPhp.Sdl.Document
import SdlPhp.Sdl.Token

/-!
# Parsing the schema language

A document, or a single type reference, from its tokens. A parser looks one token ahead and reports
the first fault that it meets; a text that cannot be read further is reported when the token before
it is taken.
-/

namespace SdlPhp.Sdl

/-- What was expected in place of a token. -/
inductive Expectation
  | name
  | punct (p : Punct)
  | keyword (word : String)
  | endOfText
  deriving DecidableEq, Repr

def Expectation.text : Expectation → String
  | name => "Name"
  | punct p => s!"'{p.text}'"
  | keyword word => s!"'{word}'"
  | endOfText => "<EOF>"

/-- Why a text is no document. -/
inductive SyntaxFault
  | lexical (fault : LexFault)
  | expected (what : Expectation) (found : Option Token)
  | unexpected (found : Option Token)
  | unexpectedDescription
  | variableInConstant (name : String)
  | reservedEnumValue (found : Option Token)
  deriving DecidableEq, Repr

def SyntaxFault.message : SyntaxFault → String
  | lexical fault => s!"Syntax Error: {fault.message}"
  | expected what found => s!"Syntax Error: Expected {what.text}, found {describe found}."
  | unexpected found => s!"Syntax Error: Unexpected {describe found}."
  | unexpectedDescription =>
    "Syntax Error: Unexpected description, " ++
      "descriptions are supported only on type definitions."
  | variableInConstant name => s!"Syntax Error: Unexpected variable '${name}' in constant value."
  | reservedEnumValue found =>
    s!"Syntax Error: {describe found} is reserved and cannot be used for an enum value."

/-- A parser takes tokens from the front of the sequence. -/
abbrev Parser := StateT Tokens (Except SyntaxFault)

namespace Parser

variable {α : Type}

/-! ## Single tokens -/

/-- The next token; none at the end of the text. -/
def peek : Parser (Option Token) := do return (← get).head?

/-- Refuses a sequence that starts with a fault. -/
def sound : Tokens → Except SyntaxFault Tokens
  | .broken fault => .error (.lexical fault)
  | ts => .ok ts

/-- Takes the next token. -/
def advance : Parser Unit := fun ts =>
  match ts with
  | .more _ _ rest => (sound rest).map ((), ·)
  | ts => .ok ((), ts)

/-- The token after the next one. -/
def lookahead : Parser (Option Token) := fun ts =>
  match ts with
  | .more _ _ rest => (sound rest).map (·.head?, ts)
  | ts => .ok (none, ts)

def unexpected : Parser α := do throw (.unexpected (← peek))

def atPunct (p : Punct) : Parser Bool := do return (← peek) == some (.punct p)

/-- Takes the punctuator if it comes next, and tells whether it did. -/
def accept (p : Punct) : Parser Bool := do
  if ← atPunct p then
    advance
    return true
  else return false

def expect (p : Punct) : Parser Unit := do
  unless ← accept p do throw (.expected (.punct p) (← peek))

def acceptKeyword (word : String) : Parser Bool := do
  if (← peek) == some (.name word) then
    advance
    return true
  else return false

def expectKeyword (word : String) : Parser Unit := do
  unless ← acceptKeyword word do throw (.expected (.keyword word) (← peek))

def name : Parser String := do
  match ← peek with
  | some (.name s) =>
    advance
    return s
  | found => throw (.expected .name found)

def atName : Parser Bool := do
  match ← peek with
  | some (.name _) => return true
  | _ => return false

def endOfText : Parser Unit := do
  match ← peek with
  | none => return ()
  | found => throw (.expected .endOfText found)

/-! ## Sequences -/

/-- A bound on the number of steps, one for each token and one more. -/
def budget : Parser Nat := do return (← get).length + 1

/-- Items up to the closing punctuator, which is taken. -/
def untilClose (close : Punct) (item : Parser α) : Nat → Parser (List α)
  | 0 => unexpected
  | fuel + 1 => do
    if ← accept close then return []
    else
      let x ← item
      let xs ← untilClose close item fuel
      return x :: xs

/-- Items between punctuators, maybe none. -/
def enclosed (opening close : Punct) (item : Parser α) : Parser (List α) := do
  expect opening
  untilClose close item (← budget)

/-- At least one item between punctuators. -/
def enclosed1 (opening close : Punct) (item : Parser α) : Parser (List α) := do
  expect opening
  let x ← item
  let xs ← untilClose close item (← budget)
  return x :: xs

/-- At least one item between punctuators, or nothing at all. -/
def optionalEnclosed1 (opening close : Punct) (item : Parser α) : Parser (List α) := do
  if ← atPunct opening then enclosed1 opening close item else return []

def separatedRest (separator : Punct) (item : Parser α) : Nat → Parser (List α)
  | 0 => return []
  | fuel + 1 => do
    if ← accept separator then
      let x ← item
      let xs ← separatedRest separator item fuel
      return x :: xs
    else return []

/-- At least one item, with the separator between them and maybe in front. -/
def separated1 (separator : Punct) (item : Parser α) : Parser (List α) := do
  let _ ← accept separator
  let x ← item
  let xs ← separatedRest separator item (← budget)
  return x :: xs

/-- Items as long as the punctuator comes next, which starts each of them. -/
def whileAt (p : Punct) (item : Parser α) : Nat → Parser (List α)
  | 0 => return []
  | fuel + 1 => do
    if ← atPunct p then
      let x ← item
      let xs ← whileAt p item fuel
      return x :: xs
    else return []

/-! ## Types and literals -/

/-- A type reference of at most this many list modifiers. -/
def typeRefWithin : Nat → Parser TypeRef
  | 0 => unexpected
  | fuel + 1 => do
    let inner ← (do
      if ← accept .bracketL then
        let t ← typeRefWithin fuel
        expect .bracketR
        return .list t
      else return .named (← name))
    if ← accept .bang then return .nonNull inner else return inner

def typeRef : Parser TypeRef := do typeRefWithin (← budget)

/-- The token that names a variable; in a constant literal it is refused. -/
def variableRef (constant : Bool) : Parser Literal := do
  let dollar ← peek
  expect .dollar
  if constant then
    match ← peek with
    | some (.name s) => throw (.variableInConstant s)
    | _ => throw (.unexpected dollar)
  else return .variableRef (← name)

def literalWithin (constant : Bool) : Nat → Parser Literal
  | 0 => unexpected
  | fuel + 1 => do
    match ← peek with
    | some (.punct .bracketL) =>
      return .list (← enclosed .bracketL .bracketR (literalWithin constant fuel))
    | some (.punct .braceL) =>
      return .object (← enclosed .braceL .braceR (do
        let key ← name
        expect .colon
        let v ← literalWithin constant fuel
        return (key, v)))
    | some (.int s) =>
      advance
      return .int s
    | some (.float s) =>
      advance
      return .float s
    | some (.string s) =>
      advance
      return .string s false
    | some (.blockString s) =>
      advance
      return .string s true
    | some (.name s) =>
      advance
      return match s with
        | "true" => .bool true
        | "false" => .bool false
        | "null" => .null
        | _ => .enum s
    | some (.punct .dollar) => variableRef constant
    | _ => unexpected

def literal (constant : Bool) : Parser Literal := do literalWithin constant (← budget)

def argument (constant : Bool) : Parser Argument := do
  let key ← name
  expect .colon
  let left := (← get).left
  let v ← literal constant
  return ⟨key, v, left⟩

def arguments (constant : Bool) : Parser (List Argument) :=
  optionalEnclosed1 .parenL .parenR (argument constant)

def directive (constant : Bool) : Parser Directive := do
  expect .atSign
  let s ← name
  return ⟨s, ← arguments constant⟩

def directives (constant : Bool) : Parser (List Directive) := do
  whileAt .atSign (directive constant) (← budget)

def defaultLiteral : Parser (Option Literal) := do
  if ← accept .equals then return some (← literal true) else return none

/-! ## Operations and fragments -/

def operationKind : Parser OperationKind := do
  let found ← peek
  let s ← name
  match OperationKind.all.find? (·.text == s) with
  | some kind => return kind
  | none => throw (.unexpected found)

def variableDef : Parser VariableDef := do
  expect .dollar
  let _ ← name
  expect .colon
  let type ← typeRef
  let default ← defaultLiteral
  return ⟨type, default, ← directives true⟩

/-- The name of a fragment, which cannot be `on`. -/
def fragmentName : Parser String := do
  if (← peek).bind Token.value? == some "on" then unexpected else name

def selectionWithin : Nat → Parser Selection
  | 0 => unexpected
  | fuel + 1 => do
    let selections := enclosed1 .braceL .braceR (selectionWithin fuel)
    if ← accept .spread then
      let conditioned ← acceptKeyword "on"
      if !conditioned && (← atName) then
        let _ ← fragmentName
        return .spread (← directives false)
      else
        let condition ← (if conditioned then some <$> name else pure none)
        let ds ← directives false
        return .inline condition ds (← selections)
    else
      let _ ← name
      if ← accept .colon then
        let _ ← name
      let args ← arguments false
      let ds ← directives false
      let nested ← (do if ← atPunct .braceL then selections else return [])
      return .field args ds nested

def selectionSet : Parser (List Selection) := do
  let fuel ← budget
  enclosed1 .braceL .braceR (selectionWithin fuel)

def operation : Parser Statement := do
  if ← atPunct .braceL then return .operation .query [] [] (← selectionSet)
  else
    let kind ← operationKind
    if ← atName then
      let _ ← name
    let variableDefs ← optionalEnclosed1 .parenL .parenR variableDef
    let ds ← directives false
    return .operation kind variableDefs ds (← selectionSet)

def fragment : Parser Statement := do
  expectKeyword "fragment"
  let _ ← fragmentName
  expectKeyword "on"
  let condition ← name
  let ds ← directives false
  return .fragment condition ds (← selectionSet)

/-! ## Parts of type definitions -/

def description : Parser (Option String) := do
  match ← peek with
  | some (.string s) =>
    advance
    return some s
  | some (.blockString s) =>
    advance
    return some s
  | _ => return none

def inputDef : Parser InputDef := do
  let text ← description
  let s ← name
  expect .colon
  let type ← typeRef
  let default ← defaultLiteral
  return ⟨text, s, type, default, ← directives true⟩

def argumentDefs : Parser (List InputDef) := optionalEnclosed1 .parenL .parenR inputDef

def fieldDef : Parser FieldDef := do
  let text ← description
  let s ← name
  let args ← argumentDefs
  expect .colon
  let type ← typeRef
  return ⟨text, s, args, type, ← directives true⟩

def enumValueName : Parser String := do
  let found ← peek
  match found.bind Token.value? with
  | some "true" | some "false" | some "null" => throw (.reservedEnumValue found)
  | _ => name

def valueDef : Parser ValueDef := do
  let text ← description
  let s ← enumValueName
  return ⟨text, s, ← directives true⟩

def interfaces : Parser (List String) := do
  if ← acceptKeyword "implements" then separated1 .amp name else return []

def unionMembers : Parser (List String) := do
  if ← accept .equals then separated1 .pipe name else return []

def operationTypeDef : Parser (OperationKind × String) := do
  let kind ← operationKind
  expect .colon
  return (kind, ← name)

/-! ## Statements -/

/-- The keywords that start definitions and extensions of types. -/
inductive TypeKeyword
  | scalar | type | interface | union | enum | input
  deriving DecidableEq, Repr

def TypeKeyword.ofText? : String → Option TypeKeyword
  | "scalar" => some .scalar
  | "type" => some .type
  | "interface" => some .interface
  | "union" => some .union
  | "enum" => some .enum
  | "input" => some .input
  | _ => none

/-- What follows the name of a type: directives and the body, which holds the interfaces that stand
in front of the directives. -/
def directivesAndBody : TypeKeyword → Parser (List Directive × Body)
  | .scalar => do return (← directives true, .scalar)
  | .type => do
    let is ← interfaces
    let ds ← directives true
    return (ds, .object is (← optionalEnclosed1 .braceL .braceR fieldDef))
  | .interface => do
    let is ← interfaces
    let ds ← directives true
    return (ds, .interface is (← optionalEnclosed1 .braceL .braceR fieldDef))
  | .union => do
    let ds ← directives true
    return (ds, .union (← unionMembers))
  | .enum => do
    let ds ← directives true
    return (ds, .enum (← optionalEnclosed1 .braceL .braceR valueDef))
  | .input => do
    let ds ← directives true
    return (ds, .inputObject (← optionalEnclosed1 .braceL .braceR inputDef))

def typeDefinition (keyword : TypeKeyword) : Parser Statement := do
  let text ← description
  advance
  let s ← name
  let (ds, body) ← directivesAndBody keyword
  return .type ⟨false, text, s, ds, body⟩

def schemaDefinition : Parser Statement := do
  let _ ← description
  advance
  let ds ← directives true
  return .schema ⟨false, ds, ← enclosed1 .braceL .braceR operationTypeDef⟩

def location : Parser Location := do
  let found ← peek
  let s ← name
  match Location.ofKeyword? s with
  | some l => return l
  | none => throw (.unexpected found)

def directiveDefinition : Parser Statement := do
  let _ ← description
  advance
  expect .atSign
  let s ← name
  let args ← argumentDefs
  let repeatable ← acceptKeyword "repeatable"
  expectKeyword "on"
  return .directive ⟨s, args, repeatable, ← separated1 .pipe location⟩

/-- An extension, which must extend by something. -/
def extension : Parser Statement := do
  match ← lookahead with
  | some (.name "schema") =>
    advance
    advance
    let ds ← directives true
    let ops ← optionalEnclosed1 .braceL .braceR operationTypeDef
    if ds.isEmpty && ops.isEmpty then unexpected else return .schema ⟨true, ds, ops⟩
  | some (.name word) =>
    match TypeKeyword.ofText? word with
    | some keyword =>
      advance
      advance
      let s ← name
      let (ds, body) ← directivesAndBody keyword
      if ds.isEmpty && body.isBare then unexpected else return .type ⟨true, none, s, ds, body⟩
    | none => throw (.unexpected (some (.name word)))
  | found => throw (.unexpected found)

def atDescription : Parser Bool := do
  match ← peek with
  | some (.string _) | some (.blockString _) => return true
  | _ => return false

def statement : Parser Statement := do
  if ← atPunct .braceL then operation
  else
    let described ← atDescription
    match ← (if described then lookahead else peek) with
    | some (.name word) =>
      match word, TypeKeyword.ofText? word with
      | _, some keyword => typeDefinition keyword
      | "schema", _ => schemaDefinition
      | "directive", _ => directiveDefinition
      | _, none =>
        if described then throw .unexpectedDescription
        else
          match word with
          | "query" | "mutation" | "subscription" => operation
          | "fragment" => fragment
          | "extend" => extension
          | _ => unexpected
    | found => throw (.unexpected found)

/-- Statements up to the end of the text. -/
def statements : Nat → Parser (List Statement)
  | 0 => unexpected
  | fuel + 1 => do
    let d ← statement
    match ← peek with
    | none => return [d]
    | some _ => return d :: (← statements fuel)

def document : Parser Document := do statements (← budget)

/-- Runs a parser on a text; it need not take all tokens. -/
def run (p : Parser α) (source : String) : Except SyntaxFault α := do
  let ts ← sound (tokens source)
  return (← StateT.run p ts).1

end Parser

/-- The document that a text writes. -/
def parseDocument (source : String) : Except SyntaxFault Document :=
  Parser.run Parser.document source

/-- A text that writes no type reference. -/
structure TypeRefFault where
  source : String
  fault : SyntaxFault
  deriving DecidableEq, Repr

def TypeRefFault.message (f : TypeRefFault) : String :=
  s!"Invalid type reference '{f.source}': {f.fault.message}"

/-- The type reference that a text writes. -/
def parseTypeRef (source : String) : Except TypeRefFault TypeRef :=
  (Parser.run (do
    let t ← Parser.typeRef
    Parser.endOfText
    return t) source).mapError fun fault => ⟨source, fault⟩

end SdlPhp.Sdl
