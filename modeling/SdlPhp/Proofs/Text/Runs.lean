import Mathlib.Data.List.SplitBy
import SdlPhp.Text.Blank

/-!
# Runs and groups

The maximal runs of characters with a property, and the groups of a list whose neighbours are
related. Both have one equation for an element in front, which tells whether it joins what stands
behind it (`runs_cons`, `splitBy_cons_of_rel`, `splitBy_cons_of_not`).
-/

namespace SdlPhp

/-! ## Runs -/

namespace Text

variable {p : Char → Bool}

theorem runs_ne_nil {c : Char} (hc : p c = true) (cs : List Char) : runs p (c :: cs) ≠ [] := by
  unfold runs
  rw [if_pos hc]
  split
  · split <;> exact List.cons_ne_nil _ _
  · exact List.cons_ne_nil _ _

/-- A character joins the run behind it if the next character belongs to one. -/
theorem runs_cons (c : Char) (cs : List Char) :
    runs p (c :: cs) =
      if p c then
        if cs.head?.any p then (runs p cs).modifyHead (c :: ·) else [c] :: runs p cs
      else runs p cs := by
  cases cs with
  | nil => rfl
  | cons d ds =>
    conv_lhs => unfold runs
    cases hruns : runs p (d :: ds) with
    | nil =>
      have hd : p d = false := Bool.eq_false_iff.2 fun hd => runs_ne_nil hd ds hruns
      simp [hd]
    | cons w ws => rfl

/-- A run is not empty and has only characters with the property. -/
theorem of_mem_runs {cs w : List Char} (hw : w ∈ runs p cs) : w ≠ [] ∧ ∀ c ∈ w, p c = true := by
  induction cs generalizing w with
  | nil => cases hw
  | cons c cs ih =>
    rw [runs_cons] at hw
    split_ifs at hw with hc hnext
    · cases hruns : runs p cs with
      | nil => simp [hruns] at hw
      | cons v vs =>
        rw [hruns] at ih
        rw [hruns, List.modifyHead_cons, List.mem_cons] at hw
        rcases hw with rfl | hw
        · exact ⟨List.cons_ne_nil c v,
            List.forall_mem_cons.2 ⟨hc, (ih List.mem_cons_self).2⟩⟩
        · exact ih (List.mem_cons_of_mem v hw)
    · rcases List.mem_cons.1 hw with rfl | hw
      · exact ⟨List.cons_ne_nil c [], List.forall_mem_singleton.2 hc⟩
      · exact ih hw
    · exact ih hw

end Text

/-! ## Groups -/

section Groups

variable {α β : Type} {r : α → α → Bool}

theorem splitBy_cons_of_not {a : α} {l : List α} (h : ∀ b ∈ l.head?, r a b = false) :
    (a :: l).splitBy r = [a] :: l.splitBy r :=
  List.splitBy_append (l := [a]) fun x hx => by
    cases hx
    exact h

/-- An element joins the group behind it if it is related to the next element. -/
theorem splitBy_cons_of_rel {a b : α} (h : r a b = true) (l : List α) :
    (a :: b :: l).splitBy r = ((b :: l).splitBy r).modifyHead (a :: ·) := by
  cases hgroups : (b :: l).splitBy r with
  | nil => exact absurd (List.splitBy_eq_nil.1 hgroups) (List.cons_ne_nil b l)
  | cons g gs =>
    obtain ⟨hflat, hne, hchain, hends⟩ := List.splitBy_eq_iff.1 hgroups
    cases g with
    | nil => exact absurd List.mem_cons_self hne
    | cons c g =>
      rw [List.flatten_cons, List.cons_append, List.cons.injEq] at hflat
      obtain ⟨rfl, rfl⟩ := hflat
      rw [List.forall_mem_cons] at hchain
      rw [List.modifyHead_cons, List.splitBy_eq_iff]
      refine ⟨rfl, ?_, ?_, ?_⟩
      · simpa using hne
      · rw [List.forall_mem_cons]
        exact ⟨List.isChain_cons_cons.2 ⟨h, hchain.1⟩, hchain.2⟩
      · cases gs with
        | nil => exact List.isChain_singleton _
        | cons e gs =>
          rw [List.isChain_cons_cons] at hends ⊢
          obtain ⟨⟨_, he, hlast⟩, hrest⟩ := hends
          exact ⟨⟨List.cons_ne_nil _ _, he, by rwa [List.getLast_cons_cons]⟩, hrest⟩

/-- The groups of images are the images of groups. -/
theorem splitBy_map {s : β → β → Bool} (f : α → β) (l : List α) :
    (l.map f).splitBy s = (l.splitBy fun a b => s (f a) (f b)).map (List.map f) := by
  induction l with
  | nil => rfl
  | cons a l ih =>
    cases l with
    | nil => rfl
    | cons b l =>
      rw [List.map_cons] at ih
      rw [List.map_cons, List.map_cons]
      by_cases h : s (f a) (f b) = true
      · rw [splitBy_cons_of_rel h, ih, splitBy_cons_of_rel (r := fun a b => s (f a) (f b)) h]
        cases (b :: l).splitBy fun a b => s (f a) (f b) <;> rfl
      · rw [splitBy_cons_of_not (l := f b :: l.map f) (by simpa using h), ih,
          splitBy_cons_of_not (l := b :: l) (by simpa using h)]
        rfl

end Groups

end SdlPhp
