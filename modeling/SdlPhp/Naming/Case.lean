import SdlPhp.Naming.Words
import SdlPhp.Text.Pieces

/-!
# Cases of a name

The conventions in which a name is written, and the conversion of a name to each of them. Letters
are the ASCII letters; every other character of a name is dropped by the three conversions, unless
the name is cut at its underscores first and the underscores are kept.
-/

namespace SdlPhp

/-- The conventions in which names are written. -/
inductive NameCase
  | pascal
  | camel
  | snake
  | keep
  deriving DecidableEq, Repr

namespace NameCase

def all : List NameCase := [.pascal, .camel, .snake, .keep]

def text : NameCase → String
  | pascal => "pascal"
  | camel => "camel"
  | snake => "snake"
  | keep => "keep"

def ofText? (s : String) : Option NameCase := all.find? (·.text == s)

theorem ofText?_text (c : NameCase) : ofText? c.text = some c := by cases c <;> decide

end NameCase

namespace Naming

def lower (cs : List Char) : List Char := cs.map Char.toLower

/-- The first letter in upper case, the others in lower case. -/
def capitalize : List Char → List Char
  | [] => []
  | c :: cs => c.toUpper :: lower cs

def decapitalize : List Char → List Char
  | [] => []
  | c :: cs => c.toLower :: cs

/-- The capitalised words without anything between them. -/
def pascal (name : List Char) : List Char := (words name).flatMap capitalize

/-- As `pascal`, but for a first letter in lower case. -/
def camel (name : List Char) : List Char := decapitalize (pascal name)

/-- The words in lower case with underscores between them. -/
def snake (name : List Char) : List Char := Text.join '_' ((words name).map lower)

/-- Applies `f` to the chunks between underscores and keeps the underscores. -/
def chunkwise (f : List Char → List Char) (name : List Char) : List Char :=
  Text.join '_' ((Text.pieces '_' name).map f)

/-- The conversion to a case. `wholeName` asks to convert underscores away instead of keeping them;
snake case always does. -/
def convertChars (case : NameCase) (wholeName : Bool) (name : List Char) : List Char :=
  match case with
  | .keep => name
  | .snake => snake name
  | .pascal => if wholeName then pascal name else chunkwise pascal name
  | .camel => if wholeName then camel name else chunkwise camel name

def splitWords (name : String) : List String := (words name.toList).map String.ofList

def toPascal (name : String) : String := String.ofList (pascal name.toList)

def toCamel (name : String) : String := String.ofList (camel name.toList)

def toSnake (name : String) : String := String.ofList (snake name.toList)

def convert (case : NameCase) (name : String) (wholeName : Bool := false) : String :=
  String.ofList (convertChars case wholeName name.toList)

/-- The name with the suffix at its end, which is not written twice. -/
def withSuffix (name suff : String) : String :=
  if suff.toList.isSuffixOf name.toList then name else name ++ suff

/-! ## Views as characters -/

@[simp] theorem toList_toPascal (name : String) : (toPascal name).toList = pascal name.toList := by
  simp [toPascal]

@[simp] theorem toList_toCamel (name : String) : (toCamel name).toList = camel name.toList := by
  simp [toCamel]

@[simp] theorem toList_toSnake (name : String) : (toSnake name).toList = snake name.toList := by
  simp [toSnake]

@[simp] theorem toList_convert (case : NameCase) (name : String) (wholeName : Bool) :
    (convert case name wholeName).toList = convertChars case wholeName name.toList := by
  simp [convert]

end Naming

end SdlPhp
