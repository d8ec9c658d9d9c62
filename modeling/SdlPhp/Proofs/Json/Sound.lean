import Mathlib.Order.MinMax
import SdlPhp.Json.Value
import SdlPhp.Proofs.Entries
import SdlPhp.Proofs.Number.Nearest
import SdlPhp.Proofs.Text.Whole

/-!
# Sound values

The values that data can be in both directions: the keys of an object are distinct, texts hold no
halves of surrogate pairs, whole numbers have not too many digits, and a number is one. A sound value
is equal to itself. Of any two equal values the second is nested at least as deeply as the first,
so that no value is equal to a part of its own (`not_same_of_depth_lt`).
-/

namespace SdlPhp

namespace Json

inductive Sound : Json → Prop
  | null : Sound null
  | bool (b : Bool) : Sound (bool b)
  | int {n : Int} (h : (Nat.toDigits 10 n.natAbs).length ≤ Number.maxDigits) : Sound (int n)
  | float {x : Binary64} (h : x.IsNumber) : Sound (float x)
  | text {s : String} (h : Text.Whole s.toList) : Sound (text s)
  | list {items : List Json} (h : ∀ v ∈ items, Sound v) : Sound (list items)
  | object {fields : List (String × Json)} (nodup : (Entries.keys fields).Nodup)
      (whole : ∀ f ∈ fields, Text.Whole f.1.toList) (h : ∀ f ∈ fields, Sound f.2) :
      Sound (object fields)

section Fields

variable {fields others : Entries Json}

theorem Sound.of_get? (h : Sound (.object fields)) {key : String} {v : Json}
    (hget : Entries.get? fields key = some v) : Sound v := by
  cases h with
  | object _ _ h => exact h _ (Entries.mem_of_get?_eq_some hget)

theorem Sound.nodup (h : Sound (.object fields)) : (Entries.keys fields).Nodup := by
  cases h with
  | object nodup _ _ => exact nodup

theorem Sound.sublist (h : Sound (.object fields)) (hsub : others.Sublist fields) :
    Sound (.object others) := by
  cases h with
  | object nodup whole h =>
    exact .object (nodup.sublist (hsub.map Prod.fst)) (fun f hf => whole f (hsub.subset hf))
      fun f hf => h f (hsub.subset hf)

/-- Putting sound fields among sound fields gives sound fields. -/
theorem Sound.update (h : Sound (.object fields)) (ho : Sound (.object others)) :
    Sound (.object (Entries.update fields others)) := by
  cases h with
  | object nodup whole h =>
    cases ho with
    | object _ owhole ho =>
      exact .object (Entries.nodup_keys_update nodup others)
        (fun f hf => (Entries.mem_of_mem_update hf).elim (whole f) (owhole f))
        fun f hf => (Entries.mem_of_mem_update hf).elim (h f) (ho f)

theorem sound_object_nil : Sound (.object []) :=
  .object List.nodup_nil (fun _ hf => absurd hf List.not_mem_nil)
    fun _ hf => absurd hf List.not_mem_nil

end Fields

/-! ## Equality -/

theorem sameList_self {items : List Json} (h : ∀ v ∈ items, same v v = true) :
    sameList items items = true := by
  induction items with
  | nil => rfl
  | cons v items ih =>
    rw [List.forall_mem_cons] at h
    rw [sameList, h.1, ih h.2, Bool.and_self]

/-- Fields that are found again under their keys are equal to the ones found. -/
theorem sameFields_of_get? {fields others : Entries Json}
    (hget : ∀ f ∈ fields, Entries.get? others f.1 = some f.2)
    (h : ∀ f ∈ fields, same f.2 f.2 = true) : sameFields fields others = true := by
  induction fields with
  | nil => rfl
  | cons f fields ih =>
    rw [List.forall_mem_cons] at h hget
    rw [sameFields, hget.1, ih hget.2 h.2]
    simpa using h.1

theorem sameNumber_self (a : Int × Int) : sameNumber a a = true := by simp [sameNumber]

theorem Sound.same_self {v : Json} (h : v.Sound) : same v v = true := by
  induction h with
  | null => rfl
  | bool b => cases b <;> rfl
  | int h => simp [same, sameAtom, number?, sameNumber_self]
  | @float x h => cases x <;> simp [same, sameAtom, number?, sameNumber_self]
  | text h => simp [same, sameAtom, number?]
  | list h ih => rw [same, sameList_self ih]
  | object nodup whole h ih =>
    rw [same, sameFields_of_get? (fun f hf => Entries.get?_of_mem nodup hf) ih]
    simp

/-- A key of the first of two equal objects is one of the second, with an equal value. -/
theorem exists_same_of_get? {fields others : Entries Json} (h : sameFields fields others = true)
    {key : String} {v : Json} (hv : Entries.get? fields key = some v) :
    ∃ w, Entries.get? others key = some w ∧ same v w = true := by
  induction fields with
  | nil => cases hv
  | cons f fields ih =>
    rw [sameFields, Bool.and_eq_true] at h
    rw [Entries.get?] at hv
    split at hv
    · rename_i hkey
      cases hv
      rw [← hkey]
      cases hw : Entries.get? others f.1 with
      | none => simp [hw] at h
      | some w => exact ⟨w, rfl, by simpa [hw] using h.1⟩
    · exact ih h.2 hv

theorem sameFields_of_same {fields others : Entries Json}
    (h : same (object fields) (object others) = true) : sameFields fields others = true := by
  rw [same, Bool.and_eq_true] at h
  exact h.2

/-! ## Depth -/

mutual

/-- How many lists and objects are nested in a value. -/
def depth : Json → Nat
  | list items => depthOfItems items + 1
  | object fields => depthOfFields fields + 1
  | _ => 0

def depthOfItems : List Json → Nat
  | [] => 0
  | v :: vs => max (depth v) (depthOfItems vs)

def depthOfFields : List (String × Json) → Nat
  | [] => 0
  | (_, v) :: fs => max (depth v) (depthOfFields fs)

end

theorem depth_le_of_get? {fields : Entries Json} {key : String} {v : Json}
    (h : Entries.get? fields key = some v) : v.depth ≤ depthOfFields fields := by
  induction fields with
  | nil => cases h
  | cons f fields ih =>
    rw [Entries.get?] at h
    rw [depthOfFields]
    split at h
    · cases h
      exact le_max_left _ _
    · exact (ih h).trans (le_max_right _ _)

mutual

theorem depth_le_of_same : ∀ {v w : Json}, same v w = true → v.depth ≤ w.depth
  | list items, w, h => by
    cases w with
    | list others =>
      rw [same] at h
      exact Nat.succ_le_succ (depth_le_of_sameList h)
    | _ => simp [same, sameAtom, number?] at h
  | object fields, w, h => by
    cases w with
    | object others => exact Nat.succ_le_succ (depth_le_of_sameFields (sameFields_of_same h))
    | _ => simp [same, sameAtom, number?] at h
  | null, _, _ => Nat.zero_le _
  | bool _, _, _ => Nat.zero_le _
  | int _, _, _ => Nat.zero_le _
  | float _, _, _ => Nat.zero_le _
  | text _, _, _ => Nat.zero_le _

theorem depth_le_of_sameList : ∀ {items others : List Json}, sameList items others = true →
    depthOfItems items ≤ depthOfItems others
  | [], _, _ => Nat.zero_le _
  | v :: items, [], h => by simp [sameList] at h
  | v :: items, w :: others, h => by
    rw [sameList, Bool.and_eq_true] at h
    exact max_le_max (depth_le_of_same h.1) (depth_le_of_sameList h.2)

theorem depth_le_of_sameFields : ∀ {fields others : List (String × Json)},
    sameFields fields others = true → depthOfFields fields ≤ depthOfFields others
  | [], _, _ => Nat.zero_le _
  | (key, v) :: fields, others, h => by
    rw [sameFields, Bool.and_eq_true] at h
    refine max_le ?_ (depth_le_of_sameFields h.2)
    cases hw : Entries.get? others key with
    | none => simp [hw] at h
    | some w =>
      have hvw : same v w = true := by simpa [hw] using h.1
      exact (depth_le_of_same hvw).trans (depth_le_of_get? hw)

end

theorem not_same_of_depth_lt {v w : Json} (h : w.depth < v.depth) : same v w = false :=
  Bool.eq_false_iff.2 fun hsame => absurd (depth_le_of_same hsame) (by omega)

/-- No object is equal to a value of a field of its own. -/
theorem not_same_of_get? {fields : Entries Json} {key : String} {v : Json}
    (h : Entries.get? fields key = some v) : same (object fields) v = false :=
  not_same_of_depth_lt (Nat.lt_succ_of_le (depth_le_of_get? h))

end Json

end SdlPhp
