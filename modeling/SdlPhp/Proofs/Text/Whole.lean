import Mathlib.Data.List.Basic
import SdlPhp.Text.CodePoint

/-!
# Texts without halves

A text all of whose code points are characters has bytes, and is the text that these bytes write.
Main statement: `Whole.exists_encode?`.
-/

namespace SdlPhp.Text

/-- All code points of the text are characters. -/
def Whole (cs : List Char) : Prop := ∃ ds, cs = ofChars ds

theorem ofChars_cons (c : Char) (cs : List Char) :
    ofChars (c :: cs) = (CodePoint.char c).chars ++ ofChars cs := rfl

theorem ofChars_append (cs ds : List Char) : ofChars (cs ++ ds) = ofChars cs ++ ofChars ds := by
  simp [ofChars, ofCodePoints]

theorem chars_of_ne_mark {c : Char} (h : c ≠ mark) : (CodePoint.char c).chars = [c] := if_neg h

theorem ofChars_of_not_mem {cs : List Char} (h : mark ∉ cs) : ofChars cs = cs := by
  induction cs with
  | nil => rfl
  | cons c cs ih =>
    obtain ⟨hc, hcs⟩ := not_or.1 (mt List.mem_cons.2 h)
    rw [ofChars_cons, chars_of_ne_mark (Ne.symm hc), ih hcs, List.singleton_append]

theorem mem_ofChars {cs : List Char} {c : Char} : c ∈ ofChars cs ↔ c ∈ cs := by
  induction cs with
  | nil => rfl
  | cons d cs ih =>
    have first : c ∈ (CodePoint.char d).chars ↔ c = d := by
      rw [CodePoint.chars]
      split
      · simp [*]
      · exact List.mem_singleton
    rw [ofChars_cons, List.mem_append, first, ih, List.mem_cons]

/-! ## Whole texts -/

theorem whole_ofChars (cs : List Char) : Whole (ofChars cs) := ⟨cs, rfl⟩

theorem whole_of_not_mem {cs : List Char} (h : mark ∉ cs) : Whole cs :=
  ⟨cs, (ofChars_of_not_mem h).symm⟩

theorem Whole.append {cs ds : List Char} (hcs : Whole cs) (hds : Whole ds) : Whole (cs ++ ds) := by
  obtain ⟨as, rfl⟩ := hcs
  obtain ⟨bs, rfl⟩ := hds
  exact ⟨as ++ bs, (ofChars_append as bs).symm⟩

theorem Whole.hasHalf {cs : List Char} (h : Whole cs) : hasHalf cs = false := by
  obtain ⟨ds, rfl⟩ := h
  rw [Text.hasHalf, codePoints_ofChars, List.any_map, List.any_eq_false]
  exact fun c _ => Bool.not_eq_true _ ▸ rfl

/-- A whole text is read back from its bytes. -/
theorem Whole.exists_encode? {s : String} (h : Whole s.toList) :
    ∃ bytes, encode? s = some bytes ∧ decode? bytes = some s := by
  obtain ⟨ds, hds⟩ := h
  refine ⟨(String.ofList ds).toUTF8, by rw [encode?, hds, chars?_ofChars, Option.map_some], ?_⟩
  have read : String.fromUTF8? (String.ofList ds).toUTF8 = some (String.ofList ds) :=
    dif_pos (String.ofList ds).isValidUTF8
  rw [decode?, read, Option.map_some, String.toList_ofList, ← hds, String.ofList_toList]

end SdlPhp.Text
