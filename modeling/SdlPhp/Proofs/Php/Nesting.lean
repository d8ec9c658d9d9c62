import Mathlib.Data.Finset.Card
import Mathlib.Data.List.Forall2
import Mathlib.Logic.Relation
import SdlPhp.Php.Declaration
import SdlPhp.Proofs.Attempt
import SdlPhp.Proofs.Entries

/-!
# Declarations in declarations

Which declarations of a table are nested in which others. A declaration has a text if all that is
nested in it at any depth is in the table and nothing holds itself (`Grounded.exists_text`): the
number of declarations below one of them falls with every level, and it is smaller than the number
of levels that are looked at. The text is then that of the declaration around the texts of those
that are nested in it (`text?_eq_some`).
-/

namespace SdlPhp.Php

/-- Attempts one after the other succeed if each of them does. -/
theorem mapM_eq_some {α β : Type} {f : α → Option β} {xs : List α} {ys : List β} :
    xs.mapM f = some ys ↔ List.Forall₂ (fun x y => f x = some y) xs ys := by
  induction xs generalizing ys with
  | nil =>
    rw [List.mapM_nil, List.forall₂_nil_left_iff]
    exact ⟨fun h => (Option.some.inj h).symm, fun h => congrArg some h.symm⟩
  | cons x xs ih =>
    rw [List.mapM_cons, List.forall₂_cons_left_iff]
    constructor
    · intro h
      obtain ⟨y, hy, h⟩ := Option.bind_eq_some_iff.1 h
      obtain ⟨zs, hzs, h⟩ := Option.bind_eq_some_iff.1 h
      exact ⟨y, zs, hy, ih.1 hzs, (Option.some.inj h).symm⟩
    · rintro ⟨y, zs, hy, hzs, rfl⟩
      rw [hy, ih.2 hzs]
      rfl

namespace Declarations

variable {t : Declarations} {id outer inner : String} {d : Declaration} {s : String}

/-- The second declaration is nested in the first one. -/
def Nests (t : Declarations) (outer inner : String) : Prop :=
  ∃ d, t.get? outer = some d ∧ inner ∈ d.nested

/-- The second declaration is the first one or stands in it at some depth. -/
def Reaches (t : Declarations) : String → String → Prop := Relation.ReflTransGen t.Nests

/-- Of the declaration and all that stand in it, each is in the table and none stands in itself. -/
structure Grounded (t : Declarations) (id : String) : Prop where
  present : ∀ j, t.Reaches id j → j ∈ t.keys
  acyclic : ∀ j, t.Reaches id j → ¬ Relation.TransGen t.Nests j j

/-- Whatever is nested is in the table, and no declaration stands in itself. -/
structure WellNested (t : Declarations) : Prop where
  closed : ∀ outer inner, t.Nests outer inner → inner ∈ t.keys
  acyclic : ∀ id, ¬ Relation.TransGen t.Nests id id

theorem WellNested.grounded (h : t.WellNested) (hid : id ∈ t.keys) : t.Grounded id where
  present := by
    intro j hj
    rcases Relation.ReflTransGen.cases_tail hj with rfl | ⟨outer, -, houter⟩
    · exact hid
    · exact h.closed outer j houter
  acyclic := fun j _ => h.acyclic j

/-- It is enough that the nested declarations of each entry come later in some order. -/
theorem wellNested_of_rank (rank : String → Nat)
    (h : ∀ e ∈ t, ∀ inner ∈ e.2.nested, inner ∈ t.keys ∧ rank inner < rank e.1) :
    t.WellNested := by
  have nests {outer inner : String} (hnests : t.Nests outer inner) :
      inner ∈ t.keys ∧ rank inner < rank outer := by
    obtain ⟨d, hd, hinner⟩ := hnests
    exact h (outer, d) (Entries.mem_of_get?_eq_some hd) inner hinner
  have falls {outer inner : String} (hgen : Relation.TransGen t.Nests outer inner) :
      rank inner < rank outer := by
    induction hgen with
    | single hnests => exact (nests hnests).2
    | tail _ hnests ih => exact (nests hnests).2.trans ih
  exact {
    closed := fun _ _ hnests => (nests hnests).1
    acyclic := fun id hcycle => lt_irrefl _ (falls hcycle) }

theorem Grounded.get? (h : t.Grounded id) : ∃ d, t.get? id = some d :=
  Entries.exists_get?_of_mem_keys (h.present id .refl)

theorem Grounded.of_nests (h : t.Grounded outer) (hnests : t.Nests outer inner) :
    t.Grounded inner where
  present := fun j hj => h.present j (.head hnests hj)
  acyclic := fun j hj => h.acyclic j (.head hnests hj)

/-! ## The number of declarations below -/

open Classical in
/-- The declarations that stand in a declaration. -/
noncomputable def below (t : Declarations) (id : String) : Finset String :=
  t.keys.toFinset.filter (Relation.TransGen t.Nests id)

theorem mem_below {j : String} :
    j ∈ t.below id ↔ j ∈ t.keys ∧ Relation.TransGen t.Nests id j := by
  simp [below]

theorem Grounded.card_below_lt (h : t.Grounded outer) (hnests : t.Nests outer inner) :
    (t.below inner).card < (t.below outer).card := by
  apply Finset.card_lt_card
  rw [Finset.ssubset_iff_of_subset]
  · refine ⟨inner, mem_below.2 ⟨h.present inner (.single hnests), .single hnests⟩, ?_⟩
    intro hmem
    exact h.acyclic inner (.single hnests) (mem_below.1 hmem).2
  · intro j hj
    obtain ⟨hkey, hgen⟩ := mem_below.1 hj
    exact mem_below.2 ⟨hkey, .head hnests hgen⟩

theorem Grounded.card_below_lt_length (h : t.Grounded id) : (t.below id).card < t.length := by
  have hid : id ∈ t.keys.toFinset := List.mem_toFinset.2 (h.present id .refl)
  have hsub : t.below id ⊂ t.keys.toFinset := by
    rw [Finset.ssubset_iff_of_subset]
    · exact ⟨id, hid, fun hmem => h.acyclic id .refl (mem_below.1 hmem).2⟩
    · intro j hj
      exact List.mem_toFinset.2 (mem_below.1 hj).1
  calc (t.below id).card < t.keys.toFinset.card := Finset.card_lt_card hsub
    _ ≤ t.keys.length := t.keys.toFinset_card_le
    _ = t.length := List.length_map _

/-! ## Texts -/

theorem textWithin_succ_eq_some {n : Nat} :
    t.textWithin (n + 1) id = some s ↔ ∃ d texts, t.get? id = some d ∧
      List.Forall₂ (fun j text => t.textWithin n j = some text) d.nested texts ∧
      s = d.textWith texts := by
  rw [textWithin]
  constructor
  · intro h
    obtain ⟨d, hd, h⟩ := Option.bind_eq_some_iff.1 h
    obtain ⟨texts, htexts, h⟩ := Option.bind_eq_some_iff.1 h
    exact ⟨d, texts, hd, mapM_eq_some.1 htexts, (Option.some.inj h).symm⟩
  · rintro ⟨d, texts, hd, htexts, rfl⟩
    rw [hd]
    apply Option.bind_eq_some_iff.2
    exact ⟨d, rfl, Option.bind_eq_some_iff.2 ⟨texts, mapM_eq_some.2 htexts, rfl⟩⟩

/-- A text that is found within some levels is found within more of them. -/
theorem textWithin_mono {n m : Nat} (h : n ≤ m) (hs : t.textWithin n id = some s) :
    t.textWithin m id = some s := by
  induction n generalizing m id s with
  | zero => cases hs
  | succ n ih =>
    obtain ⟨m, rfl⟩ : ∃ k, m = k + 1 := ⟨m - 1, by omega⟩
    obtain ⟨d, texts, hd, htexts, rfl⟩ := textWithin_succ_eq_some.1 hs
    refine textWithin_succ_eq_some.2 ⟨d, texts, hd, ?_, rfl⟩
    exact htexts.imp fun _ _ hj => ih (by omega) hj

theorem Grounded.exists_textWithin {n : Nat} (h : t.Grounded id) (hn : (t.below id).card < n) :
    ∃ s, t.textWithin n id = some s := by
  induction n generalizing id with
  | zero => omega
  | succ n ih =>
    obtain ⟨d, hd⟩ := h.get?
    have each : ∀ j ∈ d.nested, ∃ text, t.textWithin n j = some text := by
      intro j hj
      have hnests : t.Nests id j := ⟨d, hd, hj⟩
      have := h.card_below_lt hnests
      exact ih (h.of_nests hnests) (by omega)
    obtain ⟨texts, htexts⟩ := Attempt.exists_forall₂ each
    exact ⟨_, textWithin_succ_eq_some.2 ⟨d, texts, hd, htexts, rfl⟩⟩

/-- The declaration has a text. -/
theorem Grounded.exists_text (h : t.Grounded id) : ∃ s, t.text? id = some s :=
  h.exists_textWithin h.card_below_lt_length

/-- A declaration with a text has it around the texts of those that are nested in it. -/
theorem text?_eq_some (h : t.text? id = some s) :
    ∃ d texts, t.get? id = some d ∧
      List.Forall₂ (fun j text => t.text? j = some text) d.nested texts ∧ s = d.textWith texts := by
  unfold text? at h ⊢
  cases hlength : t.length with
  | zero =>
    rw [hlength] at h
    cases h
  | succ n =>
    rw [hlength] at h
    obtain ⟨d, texts, hd, htexts, rfl⟩ := textWithin_succ_eq_some.1 h
    exact ⟨d, texts, hd, htexts.imp fun _ _ hj => textWithin_mono (Nat.le_succ n) hj, rfl⟩

/-- However many levels are looked at, a declaration has one text. -/
theorem textWithin_unique {n m : Nat} {s' : String} (h : t.textWithin n id = some s)
    (h' : t.textWithin m id = some s') : s = s' := by
  have hmax := textWithin_mono (le_max_left n m) h
  rw [textWithin_mono (le_max_right n m) h'] at hmax
  exact (Option.some.inj hmax).symm

/-! ## Tables that agree on what stands in a declaration -/

section Agreement

variable {u : Declarations} {j k : String}

theorem reaches_of_transGen (h : ∀ j, t.Reaches id j → u.get? j = t.get? j)
    (hj : t.Reaches id j) (hgen : Relation.TransGen u.Nests j k) :
    Relation.TransGen t.Nests j k ∧ t.Reaches id k := by
  have step {outer inner : String} (houter : t.Reaches id outer) (hnests : u.Nests outer inner) :
      t.Nests outer inner := by
    obtain ⟨d, hd, hmem⟩ := hnests
    exact ⟨d, (h outer houter).symm.trans hd, hmem⟩
  induction hgen with
  | single hnests =>
    have := step hj hnests
    exact ⟨.single this, .tail hj this⟩
  | tail _ hnests ih =>
    have := step ih.2 hnests
    exact ⟨.tail ih.1 this, .tail ih.2 this⟩

theorem reaches_of_agree (h : ∀ j, t.Reaches id j → u.get? j = t.get? j)
    (hj : u.Reaches id j) : t.Reaches id j := by
  rcases Relation.reflTransGen_iff_eq_or_transGen.1 hj with rfl | hgen
  · exact .refl
  · exact (reaches_of_transGen h .refl hgen).2

theorem Grounded.congr (hground : t.Grounded id)
    (h : ∀ j, t.Reaches id j → u.get? j = t.get? j) : u.Grounded id where
  present := by
    intro j hj
    have hreach := reaches_of_agree h hj
    obtain ⟨d, hd⟩ := Entries.exists_get?_of_mem_keys (hground.present j hreach)
    exact Entries.mem_keys_of_mem (Entries.mem_of_get?_eq_some ((h j hreach).trans hd))
  acyclic := by
    intro j hj hcycle
    have hreach := reaches_of_agree h hj
    exact hground.acyclic j hreach (reaches_of_transGen h hreach hcycle).1

theorem textWithin_congr {n : Nat} (h : ∀ j, t.Reaches id j → u.get? j = t.get? j)
    (hs : t.textWithin n id = some s) : u.textWithin n id = some s := by
  induction n generalizing id s with
  | zero => cases hs
  | succ n ih =>
    obtain ⟨d, texts, hd, htexts, rfl⟩ := textWithin_succ_eq_some.1 hs
    refine textWithin_succ_eq_some.2 ⟨d, texts, (h id .refl).trans hd, ?_, rfl⟩
    apply Attempt.imp_of_mem htexts
    intro j hj text htext
    exact ih (fun k hk => h k (.head ⟨d, hd, hj⟩ hk)) htext

/-- What a table holds besides a declaration and those that stand in it does not count. -/
theorem Grounded.text?_congr (hground : t.Grounded id)
    (h : ∀ j, t.Reaches id j → u.get? j = t.get? j) : u.text? id = t.text? id := by
  obtain ⟨s, hs⟩ := hground.exists_text
  obtain ⟨s', hs'⟩ := (hground.congr h).exists_text
  rw [hs, hs', textWithin_unique hs' (textWithin_congr h hs)]

end Agreement

end Declarations

end SdlPhp.Php
