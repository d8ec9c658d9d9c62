import SdlPhp.Number.Integer
import SdlPhp.Text.Hex
import SdlPhp.Text.LowerCase
import SdlPhp.Text.Pieces

/-!
# Styles

The styles that tags ask for: attributes that are on or off, colors of the text and behind it, and a
link. Two descriptions of one style have the same normal text.
-/

namespace SdlPhp.Markup

/-! ## Attributes -/

/-- What a style turns on or off. -/
inductive Attribute
  | bold
  | dim
  | italic
  | underline
  | blink
  | fastBlink
  | reverse
  | conceal
  | strike
  | doubleUnderline
  | frame
  | encircle
  | overline
  deriving DecidableEq, Repr

namespace Attribute

/-- The attributes in the order in which a style names them. -/
def all : List Attribute :=
  [bold, dim, italic, underline, blink, fastBlink, reverse, conceal, strike, doubleUnderline, frame,
   encircle, overline]

/-- The names, the first of which is the full one. -/
def names : Attribute → List String
  | bold => ["bold", "b"]
  | dim => ["dim", "d"]
  | italic => ["italic", "i"]
  | underline => ["underline", "u"]
  | blink => ["blink"]
  | fastBlink => ["blink2"]
  | reverse => ["reverse", "r"]
  | conceal => ["conceal", "c"]
  | strike => ["strike", "s"]
  | doubleUnderline => ["underline2", "uu"]
  | frame => ["frame"]
  | encircle => ["encircle"]
  | overline => ["overline", "o"]

def text (a : Attribute) : String := a.names.headD ""

def ofName? (name : String) : Option Attribute := all.find? (·.names.contains name)

end Attribute

/-! ## Colors -/

/-- The colors that have names. -/
def colorNames : List String :=
  ["black", "red", "green", "yellow", "blue", "magenta", "cyan", "white", "bright_black",
   "bright_red", "bright_green", "bright_yellow", "bright_blue", "bright_magenta", "bright_cyan",
   "bright_white", "grey0", "gray0", "navy_blue", "dark_blue", "blue3", "blue1", "dark_green",
   "deep_sky_blue4", "dodger_blue3", "dodger_blue2", "green4", "spring_green4", "turquoise4",
   "deep_sky_blue3", "dodger_blue1", "green3", "spring_green3", "dark_cyan", "light_sea_green",
   "deep_sky_blue2", "deep_sky_blue1", "spring_green2", "cyan3", "dark_turquoise", "turquoise2",
   "green1", "spring_green1", "medium_spring_green", "cyan2", "cyan1", "dark_red", "deep_pink4",
   "purple4", "purple3", "blue_violet", "orange4", "grey37", "gray37", "medium_purple4",
   "slate_blue3", "royal_blue1", "chartreuse4", "dark_sea_green4", "pale_turquoise4", "steel_blue",
   "steel_blue3", "cornflower_blue", "chartreuse3", "cadet_blue", "sky_blue3", "steel_blue1",
   "pale_green3", "sea_green3", "aquamarine3", "medium_turquoise", "chartreuse2", "sea_green2",
   "sea_green1", "aquamarine1", "dark_slate_gray2", "dark_magenta", "dark_violet", "purple",
   "light_pink4", "plum4", "medium_purple3", "slate_blue1", "yellow4", "wheat4", "grey53",
   "gray53", "light_slate_grey", "light_slate_gray", "medium_purple", "light_slate_blue",
   "dark_olive_green3", "dark_sea_green", "light_sky_blue3", "sky_blue2", "dark_sea_green3",
   "dark_slate_gray3", "sky_blue1", "chartreuse1", "light_green", "pale_green1",
   "dark_slate_gray1", "red3", "medium_violet_red", "magenta3", "dark_orange3", "indian_red",
   "hot_pink3", "medium_orchid3", "medium_orchid", "medium_purple2", "dark_goldenrod",
   "light_salmon3", "rosy_brown", "grey63", "gray63", "medium_purple1", "gold3", "dark_khaki",
   "navajo_white3", "grey69", "gray69", "light_steel_blue3", "light_steel_blue", "yellow3",
   "dark_sea_green2", "light_cyan3", "light_sky_blue1", "green_yellow", "dark_olive_green2",
   "dark_sea_green1", "pale_turquoise1", "deep_pink3", "magenta2", "hot_pink2", "orchid",
   "medium_orchid1", "orange3", "light_pink3", "pink3", "plum3", "violet", "light_goldenrod3",
   "tan", "misty_rose3", "thistle3", "plum2", "khaki3", "light_goldenrod2", "light_yellow3",
   "grey84", "gray84", "light_steel_blue1", "yellow2", "dark_olive_green1", "honeydew2",
   "light_cyan1", "red1", "deep_pink2", "deep_pink1", "magenta1", "orange_red1", "indian_red1",
   "hot_pink", "dark_orange", "salmon1", "light_coral", "pale_violet_red1", "orchid2", "orchid1",
   "orange1", "sandy_brown", "light_salmon1", "light_pink1", "pink1", "plum1", "gold1",
   "navajo_white1", "misty_rose1", "thistle1", "yellow1", "light_goldenrod1", "khaki1", "wheat1",
   "cornsilk1", "grey100", "gray100", "grey3", "gray3", "grey7", "gray7", "grey11", "gray11",
   "grey15", "gray15", "grey19", "gray19", "grey23", "gray23", "grey27", "gray27", "grey30",
   "gray30", "grey35", "gray35", "grey39", "gray39", "grey42", "gray42", "grey46", "gray46",
   "grey50", "gray50", "grey54", "gray54", "grey58", "gray58", "grey62", "gray62", "grey66",
   "gray66", "grey70", "gray70", "grey74", "gray74", "grey78", "gray78", "grey82", "gray82",
   "grey85", "gray85", "grey89", "gray89", "grey93", "gray93"]

/-- Why the number of a color cannot be read. -/
inductive PartFault
  | empty
  | tooLong (digits : Nat)
  deriving DecidableEq, Repr

def PartFault.message : PartFault → String
  | empty => "invalid literal for int() with base 10: ''"
  | tooLong digits => Number.tooLongMessage digits

/-- Why a text describes no style. -/
inductive StyleFault
  | unknown
  /-- A color is given by parts, one of which cannot be read. -/
  | part (fault : PartFault)
  deriving DecidableEq, Repr

/-- The number that the decimal digits of any script write. -/
def decimal (cs : List Char) : Nat := Number.ofDigits (cs.filterMap Text.digitValue?)

/-- The number of a part of a color, all of whose characters are digits. -/
def readPart (cs : List Char) : Except StyleFault Nat :=
  if cs.isEmpty then .error (.part .empty)
  else if Number.maxDigits < cs.length then .error (.part (.tooLong cs.length))
  else .ok (decimal cs)

/-- The text between a word with an open parenthesis and a closed one. -/
def enclosed? (word cs : List Char) : Option (List Char) :=
  if word.isPrefixOf cs && cs.getLast? = some ')' && word.length < cs.length then
    some ((cs.drop word.length).dropLast)
  else none

/-- A color by three parts between commas, each up to 255. -/
def checkParts (cs : List Char) : Except StyleFault Unit :=
  let parts := Text.pieces ',' cs
  if cs.isEmpty || !cs.all (fun c => c == ',' || (Text.digitValue? c).isSome) then .error .unknown
  else if parts.length ≠ 3 then .error .unknown
  else do
    let values ← parts.mapM readPart
    if values.all (· ≤ 255) then return () else throw .unknown

/-- Up to three digits that write a number up to 255. -/
def isColorNumber (cs : List Char) : Bool :=
  !cs.isEmpty && cs.length ≤ 3 && cs.all Char.isDigit && decimal cs ≤ 255

def isHexColor : List Char → Bool
  | '#' :: ds => ds.length = 6 && ds.all fun c => (Text.hexValue? c).isSome
  | _ => false

/-- Passes the lower-case description of a color: a name, a number of the palette, or its parts. -/
def checkColor (cs : List Char) : Except StyleFault Unit :=
  if cs == "default".toList || colorNames.contains (String.ofList cs) || isHexColor cs then .ok ()
  else
    match enclosed? "color(".toList cs, enclosed? "rgb(".toList cs with
    | some number, _ => if isColorNumber number then .ok () else .error .unknown
    | none, some parts => checkParts parts
    | none, none => .error .unknown

/-! ## Styles -/

structure Style where
  /-- The attributes that are set, the last one first. -/
  attributes : List (Attribute × Bool) := []
  color : Option (List Char) := none
  background : Option (List Char) := none
  link : Option (List Char) := none
  deriving Repr

namespace Style

def setting? (s : Style) (a : Attribute) : Option Bool :=
  (s.attributes.find? (·.1 = a)).map Prod.snd

def set (s : Style) (a : Attribute) (on : Bool) : Style :=
  { s with attributes := (a, on) :: s.attributes }

def attributeWords (s : Style) : List (List Char) :=
  Attribute.all.filterMap fun a => (s.setting? a).map fun on =>
    ((if on then "" else "not ") ++ a.text).toList

/-- The normal text of a style: its attributes, its colors and its link. -/
def text (s : Style) : List Char :=
  let words := s.attributeWords ++ s.color.toList ++
    (s.background.map ("on ".toList ++ ·)).toList ++ (s.link.map ("link ".toList ++ ·)).toList
  if words.isEmpty then "none".toList else Text.join ' ' words

/-- The style with what the words ask for. -/
def read (s : Style) : List (List Char) → Except StyleFault Style
  | [] => .ok s
  | word :: words =>
    let lower := Text.lowerCase word
    match String.ofList lower, words with
    | "on", color :: words => do
      checkColor (Text.lowerCase color)
      read { s with background := some (Text.lowerCase color) } words
    | "on", [] => .error .unknown
    | "not", name :: words =>
      match Attribute.ofName? (String.ofList name) with
      | some a => read (s.set a false) words
      | none => .error .unknown
    | "not", [] => .error .unknown
    | "link", address :: words => read { s with link := some address } words
    | "link", [] => .error .unknown
    | name, words =>
      match Attribute.ofName? name with
      | some a => read (s.set a true) words
      | none => do
        checkColor lower
        read { s with color := some lower } words

/-- The normal text of a described style; what describes no style is kept in lower case. -/
def normalize (description : List Char) : Except PartFault (List Char) :=
  if Text.trim description == "none".toList then .ok "none".toList
  else
    match read {} (Text.blankWords description) with
    | .ok s => .ok s.text
    | .error .unknown => .ok (Text.lowerCase (Text.trim description))
    | .error (.part fault) => .error fault

end Style

end SdlPhp.Markup
