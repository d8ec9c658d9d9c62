import SdlPhp.Json.Writer
import SdlPhp.Proofs.Json.Sound
import SdlPhp.Proofs.Text.Pieces

/-!
# What is written of a sound value

Every piece in which a sound value is written on lines comes back unchanged from a file: it has
bytes, and there is no carriage return in it that would be read as a line feed. Main statement:
`lasting_pieces`.
-/

namespace SdlPhp

namespace Text

/-- The text is the same after it was written to a file and read again. -/
structure Lasting (cs : List Char) : Prop where
  whole : Whole cs
  noReturn : '\r' ∉ cs

variable {cs ds : List Char}

theorem Lasting.append (hcs : Lasting cs) (hds : Lasting ds) : Lasting (cs ++ ds) where
  whole := hcs.whole.append hds.whole
  noReturn := fun h => (List.mem_append.1 h).elim hcs.noReturn hds.noReturn

theorem lasting_of_forall (h : ∀ c ∈ cs, c ≠ mark ∧ c ≠ '\r') : Lasting cs where
  whole := whole_of_not_mem fun hmem => (h _ hmem).1 rfl
  noReturn := fun hmem => (h _ hmem).2 rfl

theorem lasting_of_all (h : (cs.all fun c => c ≠ mark && c ≠ '\r') = true) : Lasting cs :=
  lasting_of_forall fun c hc => by simpa using List.all_eq_true.1 h c hc

theorem Lasting.flatMap {ss : List String} (h : ∀ s ∈ ss, Lasting s.toList) :
    Lasting (ss.flatMap String.toList) := by
  induction ss with
  | nil => exact lasting_of_all rfl
  | cons s ss ih =>
    rw [List.forall_mem_cons] at h
    rw [List.flatMap_cons]
    exact h.1.append (ih h.2)

theorem lasting_append {s t : String} (hs : Lasting s.toList) (ht : Lasting t.toList) :
    Lasting (s ++ t).toList := by
  rw [String.toList_append]
  exact hs.append ht

end Text

namespace Json

open Text

/-! ## Texts -/

/-- An escaped character is written in characters from U+0020 on, none of which is the mark unless
the character is. -/
theorem of_mem_escapeChar {c d : Char} (h : d ∈ escapeChar c) :
    d ≠ '\r' ∧ (c ≠ mark → d ≠ mark) := by
  have small {cs : List Char} (hall : (cs.all fun c => c ≠ mark && c ≠ '\r') = true)
      (hd : d ∈ cs) : d ≠ '\r' ∧ (c ≠ mark → d ≠ mark) := by
    have := List.all_eq_true.1 hall d hd
    simp only [Bool.and_eq_true, decide_eq_true_iff] at this
    exact ⟨this.2, fun _ => this.1⟩
  rw [escapeChar] at h
  split_ifs at h with h1 h2 h3 hreturn h5 h6 h7 hcontrol
  -- the short escapes
  iterate 7 exact small (by decide) h
  · have digits : ∀ n < 32, (('\\' :: 'u' :: hexDigits 4 n).all fun c =>
        c ≠ mark && c ≠ '\r') = true := by decide
    exact small (digits c.toNat hcontrol) h
  · rw [List.mem_singleton.1 h]
    exact ⟨hreturn, id⟩

theorem flatMap_escapeChar_ofChars (cs : List Char) :
    (ofChars cs).flatMap escapeChar = ofChars (cs.flatMap escapeChar) := by
  induction cs with
  | nil => rfl
  | cons c cs ih =>
    rw [ofChars_cons, List.flatMap_append, ih, List.flatMap_cons, ofChars_append]
    congr 1
    by_cases hc : c = mark
    · subst hc
      decide
    · rw [chars_of_ne_mark hc, List.flatMap_singleton]
      exact (ofChars_of_not_mem fun h => (of_mem_escapeChar h).2 hc rfl).symm

theorem lasting_writeText {s : String} (h : Whole s.toList) : Lasting (writeText s).toList := by
  obtain ⟨cs, hcs⟩ := h
  rw [writeText, String.toList_ofList, hcs, flatMap_escapeChar_ofChars]
  have inside : Lasting (ofChars (cs.flatMap escapeChar)) := by
    refine ⟨whole_ofChars _, fun hmem => ?_⟩
    obtain ⟨c, -, hc⟩ := List.mem_flatMap.1 (mem_ofChars.1 hmem)
    exact (of_mem_escapeChar hc).1 rfl
  have quote : Lasting ['"'] := lasting_of_all (by decide)
  exact quote.append (inside.append quote)

/-! ## Numbers -/

/-- A character of a finite number. -/
def isNumeric (c : Char) : Bool := c.isDigit || c == '.' || c == 'e' || c == '+' || c == '-'

theorem lasting_of_numeric {cs : List Char} (h : ∀ c ∈ cs, isNumeric c = true) : Lasting cs := by
  refine lasting_of_forall fun c hc => ⟨?_, ?_⟩ <;> rintro rfl
  · exact absurd (h _ hc) (by decide)
  · exact absurd (h _ hc) (by decide)

theorem isNumeric_of_isDigit {c : Char} (h : c.isDigit = true) : isNumeric c = true := by
  simp [isNumeric, h]

theorem isNumeric_of_mem_toDigits {n : Nat} {c : Char} (h : c ∈ Nat.toDigits 10 n) :
    isNumeric c = true :=
  isNumeric_of_isDigit (Nat.isDigit_of_mem_toDigits (by decide) (by decide) h)

theorem isNumeric_of_mem_intText (n : Int) : ∀ c ∈ (Number.intText n).toList,
    isNumeric c = true := by
  intro c hc
  cases n with
  | ofNat n =>
    rw [Number.intText, Number.natText, String.toList_ofList] at hc
    exact isNumeric_of_mem_toDigits hc
  | negSucc n =>
    rw [Number.intText, String.toList_append, List.mem_append] at hc
    rcases hc with hc | hc
    · rw [List.mem_singleton.1 hc]
      rfl
    · rw [Number.natText, String.toList_ofList] at hc
      exact isNumeric_of_mem_toDigits hc

theorem isNumeric_of_mem_zeros {n : Nat} {c : Char} (h : c ∈ FloatLayout.zeros n) :
    isNumeric c = true := by
  rw [List.eq_of_mem_replicate h]
  rfl

section Float

variable {digits : List Char} (h : ∀ c ∈ digits, isNumeric c = true) (point : Int)
include h

theorem isNumeric_of_mem_positional :
    ∀ c ∈ FloatLayout.positional digits point, isNumeric c = true := by
  have taken : ∀ c ∈ digits.take point.toNat, isNumeric c = true :=
    fun c hc => h c (List.mem_of_mem_take hc)
  have dropped : ∀ c ∈ digits.drop point.toNat, isNumeric c = true :=
    fun c hc => h c (List.mem_of_mem_drop hc)
  rw [FloatLayout.positional]
  split
  · simp only [List.forall_mem_cons, List.forall_mem_append]
    exact ⟨rfl, rfl, fun c hc => isNumeric_of_mem_zeros hc, h⟩
  · simp only [List.forall_mem_cons, List.forall_mem_append]
    refine ⟨⟨taken, fun c hc => isNumeric_of_mem_zeros hc⟩, rfl, ?_⟩
    split
    · exact List.forall_mem_singleton.2 rfl
    · exact dropped

theorem isNumeric_of_mem_exponential :
    ∀ c ∈ FloatLayout.exponential digits point, isNumeric c = true := by
  have taken : ∀ c ∈ digits.take 1, isNumeric c = true :=
    fun c hc => h c (List.mem_of_mem_take hc)
  have dropped : ∀ c ∈ digits.drop 1, isNumeric c = true :=
    fun c hc => h c (List.mem_of_mem_drop hc)
  have sign : isNumeric (if point - 1 < 0 then '-' else '+') = true := by split <;> rfl
  rw [FloatLayout.exponential]
  simp only [List.forall_mem_cons, List.forall_mem_append]
  refine ⟨⟨taken, ?_⟩, rfl, sign, fun c hc => isNumeric_of_mem_zeros hc,
    fun c hc => isNumeric_of_mem_toDigits hc⟩
  split
  · exact fun _ hc => absurd hc List.not_mem_nil
  · exact List.forall_mem_cons.2 ⟨rfl, dropped⟩

end Float

theorem isNumeric_of_mem_magnitudeText (l : FloatLayout) (m : Nat) (e : Int) :
    ∀ c ∈ l.magnitudeText m e, isNumeric c = true := by
  rw [FloatLayout.magnitudeText]
  split
  · exact List.all_eq_true.1 (by decide)
  · have digits := fun (c : Char) (hc : c ∈ Nat.toDigits 10 (Binary64.shortest m e).digits) =>
      isNumeric_of_mem_toDigits hc
    dsimp only
    split
    · exact isNumeric_of_mem_positional digits _
    · exact isNumeric_of_mem_exponential digits _

theorem isNumeric_of_mem_floatText (negative : Bool) (m : Nat) (e : Int) :
    ∀ c ∈ (FloatLayout.json.text (.finite negative m e)).toList, isNumeric c = true := by
  rw [FloatLayout.text, String.toList_ofList]
  refine List.forall_mem_append.2 ⟨?_, isNumeric_of_mem_magnitudeText _ m e⟩
  exact List.all_eq_true.1 (by cases negative <;> decide)

theorem lasting_floatText (x : Binary64) : Lasting (FloatLayout.json.text x).toList := by
  cases x with
  | nan => exact lasting_of_all (by decide)
  | infinite negative => cases negative <;> exact lasting_of_all (by decide)
  | finite negative m e => exact lasting_of_numeric (isNumeric_of_mem_floatText negative m e)

/-! ## Pieces -/

theorem lasting_lineBreak (level : Nat) : Lasting (lineBreak level).toList := by
  refine lasting_of_forall fun c hc => ?_
  rw [lineBreak, String.toList_append, List.mem_append] at hc
  rcases hc with hc | hc
  · rw [List.mem_singleton.1 hc]
    decide
  · rw [String.toList_ofList] at hc
    rw [List.eq_of_mem_replicate hc]
    decide

theorem lasting_behind {s : String} (level : Nat) (hs : Lasting s.toList) :
    Lasting (s ++ lineBreak level).toList :=
  lasting_append hs (lasting_lineBreak level)

theorem lasting_itemPieces {level : Nat} {items : List Json}
    (h : ∀ v ∈ items, ∀ p ∈ pieces (level + 1) v, Lasting p.toList) {before : String}
    (hbefore : Lasting before.toList) : ∀ p ∈ itemPieces level before items, Lasting p.toList := by
  have separated : Lasting ("," ++ lineBreak (level + 1)).toList :=
    lasting_behind _ (lasting_of_all (by decide))
  induction items generalizing before with
  | nil => exact fun p hp => absurd hp List.not_mem_nil
  | cons v items ih =>
    rw [List.forall_mem_cons] at h
    have later := ih h.2 separated
    cases v with
    | text s =>
      exact List.forall_mem_cons.2
        ⟨lasting_append hbefore (h.1 _ (List.mem_singleton_self _)), later⟩
    | _ =>
      exact List.forall_mem_cons.2 ⟨hbefore, List.forall_mem_append.2 ⟨h.1, later⟩⟩

theorem lasting_fieldPieces {level : Nat} {fields : List (String × Json)}
    (hkeys : ∀ f ∈ fields, Whole f.1.toList)
    (h : ∀ f ∈ fields, ∀ p ∈ pieces (level + 1) f.2, Lasting p.toList) {before : String}
    (hbefore : Lasting before.toList) :
    ∀ p ∈ fieldPieces level before fields, Lasting p.toList := by
  have separated : Lasting ("," ++ lineBreak (level + 1)).toList :=
    lasting_behind _ (lasting_of_all (by decide))
  induction fields generalizing before with
  | nil => exact fun p hp => absurd hp List.not_mem_nil
  | cons f fields ih =>
    rw [List.forall_mem_cons] at h hkeys
    rw [fieldPieces]
    refine List.forall_mem_append.2 ⟨List.forall_mem_append.2 ⟨?_, h.1⟩, ih hkeys.2 h.2 separated⟩
    simp only [List.forall_mem_cons]
    exact ⟨hbefore, lasting_writeText hkeys.1, lasting_of_all (by decide),
      fun _ hp => absurd hp List.not_mem_nil⟩

theorem Sound.lasting_pieces {v : Json} (h : v.Sound) (level : Nat) :
    ∀ p ∈ pieces level v, Lasting p.toList := by
  have only {p : String} (hp : Lasting p.toList) : ∀ q ∈ [p], Lasting q.toList :=
    List.forall_mem_singleton.2 hp
  induction h generalizing level with
  | null => exact only (lasting_of_all (by decide))
  | bool b => cases b <;> exact only (lasting_of_all (by decide))
  | @int n h => exact only (lasting_of_numeric (isNumeric_of_mem_intText n))
  | @float x h => exact only (lasting_floatText x)
  | text h => exact only (lasting_writeText h)
  | @list items h ih =>
    cases items with
    | nil => exact only (lasting_of_all (by decide))
    | cons v items =>
      exact List.forall_mem_append.2 ⟨lasting_itemPieces (fun v hv => ih v hv (level + 1))
        (lasting_behind _ (lasting_of_all (by decide))),
        only (lasting_append (lasting_lineBreak level) (lasting_of_all (by decide)))⟩
  | @object fields nodup whole h ih =>
    cases fields with
    | nil => exact only (lasting_of_all (by decide))
    | cons f fields =>
      exact List.forall_mem_append.2 ⟨lasting_fieldPieces whole (fun f hf => ih f hf (level + 1))
        (lasting_behind _ (lasting_of_all (by decide))),
        only (lasting_append (lasting_lineBreak level) (lasting_of_all (by decide)))⟩

end Json

end SdlPhp
