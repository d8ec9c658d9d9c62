import SdlPhp.Text.Hex

/-!
# Code points

A text is made of code points: characters, and halves of surrogate pairs, which are no characters
but which data may hold. A list of characters keeps them all with the last character, U+10FFFF, as
a mark. Behind the mark a half stands as the character 0x100000 above it, and the mark itself, where
it is meant, as a second one. Main statements: code points are read back from the characters that
keep them, and so are the characters of a text without halves.
-/

namespace SdlPhp.Text

inductive CodePoint
  | char (c : Char)
  | half (unit : Nat)
  deriving DecidableEq, Repr

def mark : Char := Char.ofNat 0x10ffff

namespace CodePoint

/-- The code point above which halves stand behind the mark. -/
def halfBase : Nat := 0x100000

/-- The characters that keep a code point. -/
def chars : CodePoint → List Char
  | char c => if c = mark then [mark, mark] else [c]
  | half unit => [mark, Char.ofNat (halfBase + unit)]

/-- What the mark and the character behind it keep. -/
def ofMarked (c : Char) : CodePoint := if c = mark then char mark else half (c.toNat - halfBase)

/-- The code point for a 16-bit unit. -/
def ofUnit (unit : Nat) : CodePoint :=
  if isHighSurrogate unit || isLowSurrogate unit then half unit else char (Char.ofNat unit)

def number : CodePoint → Nat
  | char c => c.toNat
  | half unit => unit

def char? : CodePoint → Option Char
  | char c => some c
  | half _ => none

def isHalf (p : CodePoint) : Bool := p.char?.isNone

/-- The escape of half a surrogate pair. -/
def halfEscape (unit : Nat) : List Char := '\\' :: 'u' :: hexDigits 4 unit

end CodePoint

/-- The first code point of a text, and what follows it. -/
def first? : List Char → Option (CodePoint × List Char)
  | [] => none
  | [c] => some (.char c, [])
  | c :: d :: cs => if c = mark then some (.ofMarked d, cs) else some (.char c, d :: cs)

/-- The code points of a text. -/
def codePoints : List Char → List CodePoint
  | [] => []
  | [c] => [.char c]
  | c :: d :: cs =>
    if c = mark then .ofMarked d :: codePoints cs else .char c :: codePoints (d :: cs)

/-- The text of code points. -/
def ofCodePoints (ps : List CodePoint) : List Char := ps.flatMap CodePoint.chars

/-- The text of characters. -/
def ofChars (cs : List Char) : List Char := ofCodePoints (cs.map .char)

/-- The characters of a text; none if there are halves in it. -/
def chars? (cs : List Char) : Option (List Char) := (codePoints cs).mapM CodePoint.char?

def hasHalf (cs : List Char) : Bool := (codePoints cs).any CodePoint.isHalf

/-- The number of code points of a text. -/
def count (cs : List Char) : Nat := (codePoints cs).length

/-- The text of the first code points of a text. -/
def takePoints : Nat → List Char → List Char
  | 0, _ => []
  | n + 1, cs =>
    match first? cs with
    | none => []
    | some (p, rest) => p.chars ++ takePoints n rest

/-- The first of two texts comes first, or both are the same, in the order of the numbers of their
code points. -/
def inOrder (s t : String) : Bool :=
  !List.lex ((codePoints t.toList).map CodePoint.number) ((codePoints s.toList).map CodePoint.number)
    Nat.blt

/-! ## Bytes -/

/-- The bytes of a text in UTF-8; none if there are halves in it. -/
def encode? (s : String) : Option ByteArray :=
  (chars? s.toList).map fun cs => (String.ofList cs).toUTF8

/-- The text that bytes in UTF-8 write. -/
def decode? (bytes : ByteArray) : Option String :=
  (String.fromUTF8? bytes).map fun s => String.ofList (ofChars s.toList)

/-! ## Reading back -/

theorem toNat_halfBase_add {unit : Nat} (h : isHighSurrogate unit ∨ isLowSurrogate unit) :
    (Char.ofNat (CodePoint.halfBase + unit)).toNat = CodePoint.halfBase + unit := by
  have bounds : 0xd800 ≤ unit ∧ unit ≤ 0xdfff := by
    simp only [isHighSurrogate, isLowSurrogate, Bool.and_eq_true, decide_eq_true_eq] at h
    omega
  have valid : Nat.isValidChar (CodePoint.halfBase + unit) := by
    simp only [Nat.isValidChar, CodePoint.halfBase]
    omega
  unfold Char.ofNat
  rw [dif_pos valid]
  rfl

theorem ofMarked_halfBase_add {unit : Nat} (h : isHighSurrogate unit ∨ isLowSurrogate unit) :
    CodePoint.ofMarked (Char.ofNat (CodePoint.halfBase + unit)) = .half unit := by
  have value := toNat_halfBase_add h
  have other : Char.ofNat (CodePoint.halfBase + unit) ≠ mark := by
    intro e
    have bound : unit ≤ 0xdfff := by
      simp only [isHighSurrogate, isLowSurrogate, Bool.and_eq_true, decide_eq_true_eq] at h
      omega
    have last : mark.toNat = 0x10ffff := by decide
    rw [e, last] at value
    simp only [CodePoint.halfBase] at value
    omega
  rw [CodePoint.ofMarked, if_neg other, value, Nat.add_sub_cancel_left]

/-- A half is a half of a surrogate pair. -/
def CodePoint.IsValid : CodePoint → Prop
  | char _ => True
  | half unit => isHighSurrogate unit ∨ isLowSurrogate unit

theorem codePoints_chars_append {p : CodePoint} (h : p.IsValid) (cs : List Char) :
    codePoints (p.chars ++ cs) = p :: codePoints cs := by
  cases p with
  | half unit => simp [CodePoint.chars, codePoints, ofMarked_halfBase_add h]
  | char c =>
    by_cases hc : c = mark
    · simp [CodePoint.chars, codePoints, CodePoint.ofMarked, hc]
    · cases cs <;> simp [CodePoint.chars, codePoints, hc]

theorem codePoints_ofCodePoints {ps : List CodePoint} (h : ∀ p ∈ ps, p.IsValid) :
    codePoints (ofCodePoints ps) = ps := by
  induction ps with
  | nil => rfl
  | cons p ps ih =>
    have valid := List.forall_mem_cons.1 h
    rw [ofCodePoints, List.flatMap_cons, codePoints_chars_append valid.1]
    exact congrArg (p :: ·) (ih valid.2)

theorem codePoints_ofChars (cs : List Char) : codePoints (ofChars cs) = cs.map .char := by
  apply codePoints_ofCodePoints
  intro p hp
  obtain ⟨c, -, rfl⟩ := List.mem_map.1 hp
  trivial

theorem chars?_ofChars (cs : List Char) : chars? (ofChars cs) = some cs := by
  rw [chars?, codePoints_ofChars]
  induction cs with
  | nil => rfl
  | cons c cs ih => simp [CodePoint.char?, ih]

end SdlPhp.Text
