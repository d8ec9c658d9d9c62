import SdlPhp.Proofs.Naming.Conversions
import SdlPhp.Proofs.Sdl.Names

/-!
# Letter case

The conventions that keep the underscores of a name change nothing about it but the case of its
letters: at every place of the converted name stands the character that stands there in the name, a
letter maybe in the other case (`recased_convert`). So a name keeps its length, its underscores and
its digits, and names that become the same name are the same but for letter case
(`convert_recases`).
-/

namespace SdlPhp.Naming

open Sdl (isNameChar)

/-! ## Letters in either case -/

/-- The characters are the same, or they are one letter in both cases. -/
def SameLetter (c d : Char) : Prop :=
  c ≠ d → c.isAlpha = true ∧ d.isAlpha = true ∧ c.toLower = d.toLower

theorem sameLetter_refl (c : Char) : SameLetter c c := fun h => absurd rfl h

theorem SameLetter.toLower_eq {c d : Char} (h : SameLetter c d) : c.toLower = d.toLower := by
  by_cases hcd : c = d
  · rw [hcd]
  · exact (h hcd).2.2

theorem SameLetter.trans {c d e : Char} (hcd : SameLetter c d) (hde : SameLetter d e) :
    SameLetter c e := by
  intro hce
  by_cases hc : c = d
  · exact hc ▸ hde (hc ▸ hce)
  · obtain ⟨halpha, hd, -⟩ := hcd hc
    refine ⟨halpha, ?_, hcd.toLower_eq.trans hde.toLower_eq⟩
    by_cases he : d = e
    · exact he ▸ hd
    · exact (hde he).2.1

theorem sameLetter_toLower (c : Char) : SameLetter c.toLower c := by
  intro hne
  have hupper : c.isUpper = true := by
    by_contra h
    exact hne (Char.toLower_eq_of_not_isUpper h)
  refine ⟨?_, ?_, Char.toLower_toLower_eq_toLower c⟩
  · rw [Char.isAlpha, Char.isLower_toLower_eq_isAlpha, Char.isAlpha, hupper, Bool.true_or,
      Bool.or_true]
  · rw [Char.isAlpha, hupper, Bool.true_or]

theorem sameLetter_toUpper (c : Char) : SameLetter c.toUpper c := by
  intro hne
  have hlower : c.isLower = true := by
    by_contra h
    exact hne (Char.toUpper_eq_of_not_isLower h)
  refine ⟨?_, ?_, Char.toLower_toUpper_eq_toLower c⟩
  · rw [Char.isAlpha, Char.isUpper_toUpper_eq_isAlpha, Char.isAlpha, hlower, Bool.or_true,
      Bool.true_or]
  · rw [Char.isAlpha, hlower, Bool.or_true]

/-! ## Names in other letter case -/

/-- The names have the same characters at all places, but for letter case. -/
abbrev Recased (cs ds : List Char) : Prop := List.Forall₂ SameLetter cs ds

theorem recased_refl (cs : List Char) : Recased cs cs :=
  List.forall₂_same.2 fun c _ => sameLetter_refl c

theorem Recased.lower_eq {cs ds : List Char} (h : Recased cs ds) : lower cs = lower ds := by
  induction h with
  | nil => rfl
  | cons hcd _ ih => exact congrArg₂ List.cons hcd.toLower_eq ih

theorem recased_recase (first : Bool) (cs : List Char) : Recased (recase first cs) cs := by
  induction cs generalizing first with
  | nil => exact .nil
  | cons c cs ih =>
    refine .cons ?_ (ih _)
    cases first with
    | true => exact sameLetter_toUpper c
    | false => exact sameLetter_toLower c

/-- Without other characters to drop, pascal case is a change of letter case. -/
theorem recased_pascal {cs : List Char} (halnum : ∀ c ∈ cs, c.isAlphanum = true) :
    Recased (pascal cs) cs := by
  rw [pascal_eq_recase halnum]
  exact recased_recase true cs

theorem Recased.decapitalize {cs ds : List Char} (h : Recased cs ds) :
    Recased (decapitalize cs) ds := by
  cases h with
  | nil => exact .nil
  | cons hcd hrest => exact .cons ((sameLetter_toLower _).trans hcd) hrest

theorem recased_camel {cs : List Char} (halnum : ∀ c ∈ cs, c.isAlphanum = true) :
    Recased (camel cs) cs :=
  (recased_pascal halnum).decapitalize

/-! ## Chunks -/

/-- Chunks that correspond place by place still do so when they are joined. -/
theorem recased_join {ps qs : List (List Char)} (h : List.Forall₂ Recased ps qs) (sep : Char) :
    Recased (Text.join sep ps) (Text.join sep qs) := by
  induction h with
  | nil => exact .nil
  | cons hpq hrest ih =>
    cases hrest with
    | nil =>
      rw [Text.join_singleton, Text.join_singleton]
      exact hpq
    | cons _ _ =>
      rw [Text.join_cons_cons, Text.join_cons_cons]
      exact List.rel_append hpq (.cons (sameLetter_refl sep) ih)

/-- Between its underscores a name has letters and digits only. -/
theorem isAlphanum_of_mem_pieces {name p : List Char} (h : ∀ c ∈ name, isNameChar c = true)
    (hp : p ∈ Text.pieces '_' name) : ∀ c ∈ p, c.isAlphanum = true := by
  intro c hc
  have hmem : c ∈ name := by
    rw [← Text.join_pieces '_' name]
    exact Text.mem_join_of_mem hp hc
  have hsep : c ≠ '_' := fun he => Text.sep_not_mem_of_mem_pieces hp (he ▸ hc)
  simpa [isNameChar, hsep] using h c hmem

/-- What changes letter case in letters and digits does so, chunk by chunk, in a name. -/
theorem recased_chunkwise {f : List Char → List Char}
    (hf : ∀ cs : List Char, (∀ c ∈ cs, c.isAlphanum = true) → Recased (f cs) cs)
    {name : List Char} (h : ∀ c ∈ name, isNameChar c = true) :
    Recased (chunkwise f name) name := by
  have hchunks : List.Forall₂ Recased ((Text.pieces '_' name).map f) (Text.pieces '_' name) :=
    List.forall₂_map_left_iff.2
      (List.forall₂_same.2 fun p hp => hf p (isAlphanum_of_mem_pieces h hp))
  have hjoined := recased_join hchunks '_'
  rwa [Text.join_pieces] at hjoined

/-! ## Conventions -/

/-- But for snake case, a converted name is the name in other letter case. -/
theorem recased_convert {case : NameCase} (hcase : case ≠ .snake) {name : String}
    (h : ∀ c ∈ name.toList, isNameChar c = true) :
    Recased (convert case name).toList name.toList := by
  rw [toList_convert]
  cases case with
  | pascal => exact recased_chunkwise (fun _ => recased_pascal) h
  | camel => exact recased_chunkwise (fun _ => recased_camel) h
  | snake => exact absurd rfl hcase
  | keep => exact recased_refl name.toList

/-- Outside of snake case a name that is converted keeps its length, has its underscores and digits
where they were, and differs from what it was in the case of letters at most. Hence names that are
converted to the same name are the same but for letter case. -/
theorem convert_recases {case : NameCase} (hcase : case ≠ .snake) {name : String}
    (hname : Sdl.Named name) :
    (convert case name).length = name.length ∧
      (∀ (i : Nat) c, name.toList[i]? = some c → ∃ d, (convert case name).toList[i]? = some d ∧
        (c = '_' ∨ c.isDigit = true → d = c) ∧
        (d ≠ c → d.isAlpha = true ∧ c.isAlpha = true ∧ d.toLower = c.toLower)) ∧
      ∀ other, Sdl.Named other → convert case other = convert case name →
        lower other.toList = lower name.toList := by
  have hrecased := recased_convert hcase (Sdl.isNameChar_of_mem hname)
  refine ⟨?_, fun i c hc => ?_, fun other hother heq => ?_⟩
  · rw [← String.length_toList, ← String.length_toList, hrecased.length_eq]
  · obtain ⟨hi, rfl⟩ := List.getElem?_eq_some_iff.1 hc
    have hi' : i < (convert case name).toList.length := hrecased.length_eq ▸ hi
    have hsame : SameLetter (convert case name).toList[i] name.toList[i] := hrecased.get hi' hi
    refine ⟨(convert case name).toList[i], List.getElem?_eq_getElem hi', fun hkept => ?_, hsame⟩
    by_contra hne
    have halpha := (hsame hne).2.1
    rcases hkept with hunderscore | hdigit
    · rw [hunderscore] at halpha
      exact absurd halpha (by decide)
    · have halnum := isAlphanum_of_isAlpha halpha
      rw [isAlpha_eq_not_isDigit halnum, hdigit] at halpha
      exact Bool.noConfusion halpha
  · have hlower := (recased_convert hcase (Sdl.isNameChar_of_mem hother)).lower_eq
    rw [heq, hrecased.lower_eq] at hlower
    exact hlower.symm

/-- An acronym, chunks that are empty or start with a digit, and a name that only differs in letter
case. -/
theorem convert_recases_acronym :
    let name := "_HTTPServer__2dX_y"
    Sdl.Named name ∧ convert .camel name = "_httpServer__2dX_y" ∧
      (convert .camel name).length = name.length ∧
      (∃ d, (convert .camel name).toList[3]? = some d ∧ d.toLower = 't') ∧
      lower "_HttpServer__2dX_Y".toList = lower name.toList := by
  intro name
  have hname : Sdl.Named name := show Sdl.isName name.toList = true by decide
  have hother : Sdl.Named "_HttpServer__2dX_Y" := show Sdl.isName _ = true by decide
  have hcase : NameCase.camel ≠ .snake := by decide
  obtain ⟨hlength, hplaces, hsame⟩ := convert_recases hcase hname
  obtain ⟨d, hd, -, hletter⟩ := hplaces 3 'T' (by decide)
  refine ⟨hname, by decide, hlength, ⟨d, hd, ?_⟩, hsame _ hother (by decide)⟩
  exact SameLetter.toLower_eq hletter

end SdlPhp.Naming
