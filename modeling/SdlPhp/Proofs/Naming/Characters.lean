import Mathlib.Data.List.Basic
import SdlPhp.Naming.Case
import SdlPhp.Naming.Reserved
import SdlPhp.Proofs.Text.Pieces
import SdlPhp.Proofs.Text.Runs
import SdlPhp.Sdl.Token

/-!
# Characters of names

A name of the language stays one character by character in every naming convention: the conversions
put together words of letters and digits, at most with underscores between them
(`isNameChar_of_mem_convert`). And a name that is `class` or `new` in any letter case is escaped as
the name of a case (`lower_escape_ne`).
-/

namespace SdlPhp

open Sdl (isNameChar)

/-! ## ASCII characters -/

/-- What is so for each of the first 128 characters is so for an ASCII character. -/
theorem forall_ascii {p : Char → Prop} (h : ∀ n : Fin 128, p (Char.ofNat n)) {c : Char}
    (hc : c.toNat < 128) : p c := by
  have := h ⟨c.toNat, hc⟩
  rwa [Char.ofNat_toNat] at this

theorem lt_of_isNameChar {c : Char} (h : isNameChar c = true) : c.toNat < 128 := by
  unfold isNameChar Char.isAlphanum Char.isAlpha Char.isUpper Char.isLower Char.isDigit at h
  simp only [Bool.or_eq_true, Bool.and_eq_true, decide_eq_true_eq, UInt32.le_iff_toNat_le,
    beq_iff_eq] at h
  rcases h with h | rfl
  · simp at h
    omega
  · decide

theorem isNameChar_of_isAlphanum {c : Char} (h : c.isAlphanum = true) : isNameChar c = true := by
  rw [isNameChar, h, Bool.true_or]

/-- What is so for each letter and digit among the first 128 characters is so for every one. -/
theorem forall_alphanum {p : Char → Prop}
    (h : ∀ n : Fin 128, (Char.ofNat n).isAlphanum = true → p (Char.ofNat n)) {c : Char}
    (hc : c.isAlphanum = true) : p c :=
  forall_ascii (p := fun c => c.isAlphanum = true → p c) h
    (lt_of_isNameChar (isNameChar_of_isAlphanum hc)) hc

theorem isAlphanum_of_isAlpha {c : Char} (h : c.isAlpha = true) : c.isAlphanum = true := by
  rw [Char.isAlphanum, h, Bool.true_or]

theorem isAlphanum_toLower {c : Char} (h : c.isAlphanum = true) : c.toLower.isAlphanum = true :=
  forall_alphanum (p := fun c => c.toLower.isAlphanum = true) (by decide) h

theorem isAlphanum_toUpper {c : Char} (h : c.isAlphanum = true) : c.toUpper.isAlphanum = true :=
  forall_alphanum (p := fun c => c.toUpper.isAlphanum = true) (by decide) h

/-! ## Words and cases -/

namespace Naming

theorem isAlphanum_of_mem_lower {cs : List Char} (h : ∀ c ∈ cs, c.isAlphanum = true) :
    ∀ c ∈ lower cs, c.isAlphanum = true :=
  List.forall_mem_map.2 fun c hc => isAlphanum_toLower (h c hc)

theorem isAlphanum_of_mem_capitalize {cs : List Char} (h : ∀ c ∈ cs, c.isAlphanum = true) :
    ∀ c ∈ capitalize cs, c.isAlphanum = true := by
  cases cs with
  | nil => simp [capitalize]
  | cons c cs =>
    rw [List.forall_mem_cons] at h
    exact List.forall_mem_cons.2 ⟨isAlphanum_toUpper h.1, isAlphanum_of_mem_lower h.2⟩

theorem ne_nil_of_mem_words {name w : List Char} (hw : w ∈ words name) : w ≠ [] :=
  (Text.of_mem_runs hw).1

theorem isAlphanum_of_mem_words {name w : List Char} (hw : w ∈ words name) :
    ∀ c ∈ w, c.isAlphanum = true :=
  (Text.of_mem_runs hw).2

theorem isAlphanum_of_mem_pascal (name : List Char) : ∀ c ∈ pascal name, c.isAlphanum = true := by
  intro c hc
  obtain ⟨w, hw, hc⟩ := List.mem_flatMap.1 hc
  exact isAlphanum_of_mem_capitalize (isAlphanum_of_mem_words hw) c hc

theorem isAlphanum_of_mem_camel (name : List Char) : ∀ c ∈ camel name, c.isAlphanum = true := by
  rw [camel]
  have hpascal := isAlphanum_of_mem_pascal name
  cases hname : pascal name with
  | nil => simp [decapitalize]
  | cons c cs =>
    rw [hname, List.forall_mem_cons] at hpascal
    exact List.forall_mem_cons.2 ⟨isAlphanum_toLower hpascal.1, hpascal.2⟩

/-- Joining words of letters and digits by underscores gives characters of names. -/
theorem isNameChar_of_mem_join {ps : List (List Char)}
    (h : ∀ p ∈ ps, ∀ c ∈ p, c.isAlphanum = true) :
    ∀ c ∈ Text.join '_' ps, isNameChar c = true := by
  intro c hc
  rcases Text.mem_join hc with rfl | ⟨p, hp, hc⟩
  · rfl
  · exact isNameChar_of_isAlphanum (h p hp c hc)

theorem isNameChar_of_mem_chunkwise {f : List Char → List Char}
    (hf : ∀ cs, ∀ c ∈ f cs, c.isAlphanum = true) (name : List Char) :
    ∀ c ∈ chunkwise f name, isNameChar c = true :=
  isNameChar_of_mem_join (List.forall_mem_map.2 fun cs _ => hf cs)

/-- In every case a name has only characters of names. -/
theorem isNameChar_of_mem_convert (case : NameCase) {name : String}
    (h : ∀ c ∈ name.toList, isNameChar c = true) :
    ∀ c ∈ (convert case name).toList, isNameChar c = true := by
  rw [toList_convert]
  cases case with
  | keep => exact h
  | pascal => exact isNameChar_of_mem_chunkwise isAlphanum_of_mem_pascal name.toList
  | camel => exact isNameChar_of_mem_chunkwise isAlphanum_of_mem_camel name.toList
  | snake =>
    refine isNameChar_of_mem_join (List.forall_mem_map.2 fun w hw => ?_)
    exact isAlphanum_of_mem_lower (isAlphanum_of_mem_words hw)

end Naming

/-! ## Reserved words in any letter case -/

theorem lt_of_toLower_isLower {c : Char} (h : c.toLower.isLower = true) : c.toNat < 128 := by
  by_contra hc
  have hupper : ¬ (c.val ≥ 'A'.val ∧ c.val ≤ 'Z'.val) := by
    rintro ⟨-, hle⟩
    simp [UInt32.le_iff_toNat_le] at hle
    omega
  unfold Char.toLower Char.isLower at h
  rw [dif_neg hupper, Bool.and_eq_true] at h
  simp [UInt32.le_iff_toNat_le] at h
  omega

/-- ASCII text in lower case. -/
theorem Text.lowerAfter_of_lt {cs : List Char} (h : ∀ c ∈ cs, c.toNat < 128) (before : List Char) :
    lowerAfter before cs = cs.map Char.toLower := by
  induction cs generalizing before with
  | nil => rfl
  | cons c cs ih =>
    rw [List.forall_mem_cons] at h
    have hsigma : c ≠ 'Σ' := by
      rintro rfl
      exact absurd h.1 (by decide)
    have hdotted : c ≠ 'İ' := by
      rintro rfl
      exact absurd h.1 (by decide)
    simp only [lowerAfter, if_neg hsigma, if_neg hdotted, ih h.2, lowerChar_of_lt h.1,
      List.map_cons]

theorem Text.trim_of_not_blank {cs : List Char} (h : ∀ c ∈ cs, isBlank c = false) :
    trim cs = cs := by
  have kept : ∀ {ds : List Char}, (∀ c ∈ ds, isBlank c = false) → ds.dropWhile isBlank = ds := by
    intro ds hds
    cases ds with
    | nil => rfl
    | cons c ds => rw [List.dropWhile_cons, hds c List.mem_cons_self, if_neg Bool.false_ne_true]
  rw [trim, trimStart, kept h, trimEnd, kept (by simpa using h), List.reverse_reverse]

namespace ReservedWords

/-- A text that is a word of lower-case letters but for letter case is compared as that word. -/
theorem fold_of_lower {name word : String} (hword : ∀ c ∈ word.toList, c.isLower = true)
    (h : Naming.lower name.toList = word.toList) : fold name = word := by
  have hlower : ∀ c ∈ name.toList, c.toLower.isLower = true :=
    fun c hc => hword _ (h ▸ List.mem_map_of_mem hc)
  have hascii : ∀ c ∈ name.toList, c.toNat < 128 :=
    fun c hc => lt_of_toLower_isLower (hlower c hc)
  have hblank : ∀ c ∈ name.toList, Text.isBlank c = false := fun c hc =>
    forall_ascii (p := fun c => c.toLower.isLower = true → Text.isBlank c = false)
      (by decide) (hascii c hc) (hlower c hc)
  rw [fold, Text.trim_of_not_blank hblank, Text.lowerCase, Text.lowerAfter_of_lt hascii,
    ← Naming.lower, h, String.ofList_toList]

/-- No name of a case is `class` or `new` in any letter case. -/
theorem lower_escape_ne (literal : String) {word : String} (hword : word ∈ caseNames.words) :
    Naming.lower (caseNames.escape literal).toList ≠ word.toList := by
  have hletters : ∀ w ∈ caseNames.words, w.toList.all Char.isLower = true := by decide
  have hfirst : ∀ w ∈ caseNames.words, w.toList.head? ≠ some '_' := by decide
  intro h
  rw [escape] at h
  split at h
  · refine hfirst word hword ?_
    rw [← h, String.toList_append]
    rfl
  · rename_i hfree
    have hfold := fold_of_lower (List.all_eq_true.1 (hletters word hword)) h
    exact hfree (by rw [isReserved, hfold]; exact List.contains_iff_mem.2 hword)

end ReservedWords

end SdlPhp
