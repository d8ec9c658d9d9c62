import Mathlib.Data.List.DropRight
import SdlPhp.Text.Blank

/-!
# Blanks around a text

What is left of a text without the blanks at its ends: nothing but characters of it, and every
character of it that is no blank with all that stands between two of them.
-/

namespace SdlPhp.Text

variable {c : Char} {cs ds : List Char}

theorem mem_of_mem_trimStart (h : c ∈ trimStart cs) : c ∈ cs :=
  (List.dropWhile_sublist _).subset h

theorem mem_of_mem_trim (h : c ∈ trim cs) : c ∈ cs := by
  unfold trim trimEnd at h
  have hreversed := (List.dropWhile_sublist isBlank).subset (List.mem_reverse.1 h)
  exact mem_of_mem_trimStart (List.mem_reverse.1 hreversed)

theorem trimEnd_eq_nil_iff : trimEnd cs = [] ↔ allBlank cs = true := by
  simp [trimEnd, allBlank, List.dropWhile_eq_nil_iff]

theorem allBlank_eq_false_of_mem (hmem : c ∈ cs) (hc : isBlank c = false) :
    allBlank cs = false := by
  unfold allBlank
  rw [List.all_eq_false]
  exact ⟨c, hmem, by simp [hc]⟩

theorem dropWhile_append_cons {p : Char → Bool} (hc : p c = false) (cs ds : List Char) :
    (cs ++ c :: ds).dropWhile p = cs.dropWhile p ++ c :: ds := by
  induction cs with
  | nil => simp [hc]
  | cons a cs ih => by_cases ha : p a = true <;> simp [ha, ih]

/-- Around a character that is no blank only the ends of the whole lose blanks. -/
theorem trim_append_cons (hc : isBlank c = false) (cs ds : List Char) :
    trim (cs ++ c :: ds) = trimStart cs ++ c :: trimEnd ds := by
  unfold trim trimStart trimEnd
  rw [dropWhile_append_cons hc]
  simp [dropWhile_append_cons hc]

end SdlPhp.Text
