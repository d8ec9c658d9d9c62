import SdlPhp.Json.Reader
import SdlPhp.Text.Pieces
import SdlPhp.Text.Quoted

/-!
# Addresses of the network

Which texts are taken for network addresses: those with the scheme `http` or `https`, in any letter
case, and a host behind two slashes. Tabs and line ends are no part of an address, nor are control
characters and spaces in front of it. Some texts cannot be read as an address at all: those whose
host has brackets without a partner or in the wrong place, holds something else than an address
between brackets, or has characters that stand for separators.
-/

namespace SdlPhp.Url

/-- Why the host of an address cannot be read. -/
inductive Fault
  | misplacedBracket
  | futureAddress
  | notAnAddress (host : String)
  | fourPartAddress
  | disguisedSeparator (host : String)
  deriving DecidableEq, Repr

def Fault.message : Fault → String
  | misplacedBracket => "Invalid IPv6 URL"
  | futureAddress => "IPvFuture address is invalid"
  | notAnAddress host => Text.quoted host ++ " does not appear to be an IPv4 or IPv6 address"
  | fourPartAddress => "An IPv4 address cannot be in brackets"
  | disguisedSeparator host =>
    s!"netloc '{host}' contains invalid characters under NFKC normalization"

/-! ## Hosts between brackets -/

def isHexDigit (c : Char) : Bool := (Text.hexValue? c).isSome

/-- A number up to 255 in at most three digits, without leading zeros. -/
def isOctet (cs : List Char) : Bool :=
  !cs.isEmpty && cs.length ≤ 3 && cs.all Char.isDigit &&
    (cs == ['0'] || cs.head? ≠ some '0') && Json.digitsValue cs ≤ 255

def isFourPart (cs : List Char) : Bool :=
  let octets := Text.pieces '.' cs
  octets.length = 4 && octets.all isOctet

/-- Up to four hexadecimal digits. -/
def isGroup (cs : List Char) : Bool := !cs.isEmpty && cs.length ≤ 4 && cs.all isHexDigit

/-- Eight groups between colons, of which the last two may be written as a four-part address and
some in one place may be left out between two colons. -/
def isEightPart (cs : List Char) : Bool :=
  let fields := Text.pieces ':' cs
  let last := fields.getLastD []
  let fields :=
    if last.contains '.' then
      if isFourPart last then fields.dropLast ++ [['0'], ['0']] else []
    else fields
  let inner := (fields.drop 1).dropLast
  let gaps := (inner.filter (·.isEmpty)).length
  if fields.length < 3 || 9 < fields.length then false
  else if gaps = 0 then fields.length = 8 && fields.all isGroup
  else if 1 < gaps then false
  else
    let skip := ((fields.drop 1).takeWhile (!·.isEmpty)).length + 1
    let front := fields.take skip
    let back := fields.drop (skip + 1)
    let front := if front == [[]] then [] else front
    let back := if back == [[]] then [] else back
    front.all isGroup && back.all isGroup && front.length + back.length < 8

/-- A host that starts with `v`: a version and an address behind a dot. -/
def isFutureAddress (cs : List Char) : Bool :=
  match cs with
  | 'v' :: rest =>
    let version := rest.takeWhile isHexDigit
    match rest.drop version.length with
    | '.' :: address => !version.isEmpty && !address.isEmpty && !address.contains '\n'
    | _ => false
  | _ => false

/-- The address without the name of a scope, which stands behind a percent sign. -/
def withoutScope (cs : List Char) : Option (List Char) :=
  match Text.cutFirst '%' cs with
  | (address, none) => some address
  | (address, some scope) => if scope.isEmpty || scope.contains '%' then none else some address

def bracketFault? (host : List Char) : Option Fault :=
  if host.head? = some 'v' then
    if isFutureAddress host then none else some .futureAddress
  else if isFourPart host then some .fourPartAddress
  else
    match withoutScope host with
    | some address =>
      if isEightPart address then none
      else some (.notAnAddress (String.ofList host))
    | none => some (.notAnAddress (String.ofList host))

/-! ## Hosts -/

/-- Characters that compatibility decomposition turns into separators of an address. -/
def disguises : List Nat :=
  [0x2047, 0x2048, 0x2049, 0x2100, 0x2101, 0x2105, 0x2106, 0x2a74, 0xfe13, 0xfe16, 0xfe55,
   0xfe56, 0xfe5f, 0xfe6b, 0xff03, 0xff0f, 0xff1a, 0xff1f, 0xff20]

/-- The part behind the last `@`: the name of a host and maybe, behind a colon, a number. -/
def namePart (host : List Char) : List Char :=
  (host.reverse.takeWhile (· ≠ '@')).reverse

/-- What is wrong with a host that has brackets: they have to enclose an address, with nothing
before them and nothing but a number, with its colon, behind them. -/
def enclosedFault? (host : List Char) : Option Fault :=
  match Text.cutFirst '[' (namePart host) with
  | (name, none) => bracketFault? (Text.cutFirst ':' name).1
  | (_ :: _, some _) => some .misplacedBracket
  | ([], some rest) =>
    match Text.cutFirst ']' rest with
    | (address, some (c :: _)) =>
      if c = ':' then bracketFault? address else some .misplacedBracket
    | (address, _) => bracketFault? address

def hostFault? (host : List Char) : Option Fault :=
  if host.contains '[' != host.contains ']' then some .misplacedBracket
  else
    (if host.contains '[' then enclosedFault? host else none) <|>
      (if host.any fun c => disguises.contains c.toNat then
        some (.disguisedSeparator (String.ofList host))
      else none)

/-! ## Addresses -/

def isIgnored (c : Char) : Bool := c == '\t' || c == '\n' || c == '\r'

/-- The text without what is no part of an address. -/
def clean (cs : List Char) : List Char :=
  (cs.dropWhile fun c => c.toNat ≤ 32).filter (!isIgnored ·)

def isSchemeChar (c : Char) : Bool := c.isAlphanum || c == '+' || c == '-' || c == '.'

/-- The scheme in lower case, if there is one, and what follows it. -/
def splitScheme (cs : List Char) : List Char × List Char :=
  match Text.cutFirst ':' cs with
  | (scheme, some rest) =>
    if (scheme.head?.map Char.isAlpha) = some true && scheme.all isSchemeChar then
      (scheme.map Char.toLower, rest)
    else ([], cs)
  | (_, none) => ([], cs)

/-- The host behind two slashes. -/
def hostOf (cs : List Char) : List Char :=
  match cs with
  | '/' :: '/' :: rest => rest.takeWhile fun c => c ≠ '/' && c ≠ '?' && c ≠ '#'
  | _ => []

/-- The text is an address of the network. -/
def isUrl (source : String) : Except Fault Bool :=
  let (scheme, rest) := splitScheme (clean source.toList)
  let host := hostOf rest
  match hostFault? host with
  | some fault => .error fault
  | none => .ok ((scheme == "http".toList || scheme == "https".toList) && !host.isEmpty)

end SdlPhp.Url
