import Mathlib.Data.List.Forall2

/-!
# Attempts

A computation that may fail gives a value or the fault that stopped it. This file gives the rules by
which the outcome of a sequence of attempts is read off its parts: a sequence succeeds if each of
its steps does (`bind_eq_ok`, `mapM_eq_ok`, `forM_eq_ok`), and it fails with the first fault of a
step (`fault?_bind`, `fault?_mapM`). Of the faults those of a kind may be all that matters
(`fails_bind`, `fails_mapM`).
-/

namespace SdlPhp.Attempt

variable {ε δ α β : Type}

/-! ## Related lists -/

theorem exists_of_mem_left {R : α → β → Prop} {xs : List α} {ys : List β} {x : α}
    (h : List.Forall₂ R xs ys) (hx : x ∈ xs) : ∃ y ∈ ys, R x y := by
  induction h with
  | nil => cases hx
  | cons hhead _ ih =>
    rcases List.mem_cons.1 hx with rfl | hx
    · exact ⟨_, List.mem_cons_self, hhead⟩
    · obtain ⟨y, hy, hrel⟩ := ih hx
      exact ⟨y, List.mem_cons_of_mem _ hy, hrel⟩

theorem exists_of_mem_right {R : α → β → Prop} {xs : List α} {ys : List β} {y : β}
    (h : List.Forall₂ R xs ys) (hy : y ∈ ys) : ∃ x ∈ xs, R x y :=
  exists_of_mem_left h.flip hy

theorem imp_of_mem {R S : α → β → Prop} {xs : List α} {ys : List β} (h : List.Forall₂ R xs ys)
    (hRS : ∀ x ∈ xs, ∀ y, R x y → S x y) : List.Forall₂ S xs ys := by
  induction h with
  | nil => exact .nil
  | cons hhead _ ih =>
    rw [List.forall_mem_cons] at hRS
    exact .cons (hRS.1 _ hhead) (ih hRS.2)

theorem exists_forall₂ {R : α → β → Prop} {xs : List α} (h : ∀ x ∈ xs, ∃ y, R x y) :
    ∃ ys, List.Forall₂ R xs ys := by
  induction xs with
  | nil => exact ⟨[], .nil⟩
  | cons x xs ih =>
    rw [List.forall_mem_cons] at h
    obtain ⟨y, hy⟩ := h.1
    obtain ⟨ys, hys⟩ := ih h.2
    exact ⟨y :: ys, .cons hy hys⟩

/-- Where only the partner of one element is exchanged, lists stay related. -/
theorem exists_exchange {R S : α → β → Prop} {xs : List α} {ys : List β} {x : α}
    (h : List.Forall₂ R xs ys) (hx : x ∈ xs) (hnodup : xs.Nodup)
    (hothers : ∀ a ∈ xs, a ≠ x → ∀ b, R a b → S a b) :
    ∃ before y after, ys = before ++ y :: after ∧ R x y ∧
      ∀ z, S x z → List.Forall₂ S xs (before ++ z :: after) := by
  induction h with
  | nil => cases hx
  | @cons a b xs ys hhead htail ih =>
    obtain ⟨hnot, hrest⟩ := List.nodup_cons.1 hnodup
    rw [List.forall_mem_cons] at hothers
    rcases List.mem_cons.1 hx with rfl | hx
    · refine ⟨[], b, ys, rfl, hhead, fun z hz => .cons hz ?_⟩
      apply imp_of_mem htail
      intro a ha
      exact hothers.2 a ha fun heq => hnot (heq ▸ ha)
    · obtain ⟨before, y, after, rfl, hy, hexchange⟩ := ih hx hrest hothers.2
      have hne : a ≠ x := fun heq => hnot (heq ▸ hx)
      exact ⟨b :: before, y, after, rfl, hy, fun z hz =>
        .cons (hothers.1 hne b hhead) (hexchange z hz)⟩

/-! ## Success -/

theorem bind_eq_ok {x : Except ε α} {f : α → Except ε β} {b : β} :
    (x >>= f) = .ok b ↔ ∃ a, x = .ok a ∧ f a = .ok b := by
  cases x <;> simp [bind, Except.bind]

theorem pure_eq_ok {a b : α} : (pure a : Except ε α) = .ok b ↔ a = b := by
  simp [pure, Except.pure]

theorem map_eq_ok {x : Except ε α} {f : α → β} {b : β} :
    x.map f = .ok b ↔ ∃ a, x = .ok a ∧ f a = b := by
  cases x <;> simp [Except.map]

theorem mapError_eq_ok {x : Except ε α} {f : ε → δ} {a : α} :
    x.mapError f = .ok a ↔ x = .ok a := by
  cases x <;> simp [Except.mapError]

theorem forM_eq_ok {f : α → Except ε Unit} {xs : List α} :
    xs.forM f = .ok () ↔ ∀ x ∈ xs, f x = .ok () := by
  induction xs with
  | nil => simp [pure, Except.pure]
  | cons x xs ih =>
    rw [List.forM_eq_forM] at ih ⊢
    rw [List.forM_cons, bind_eq_ok, List.forall_mem_cons, ← ih]
    constructor
    · rintro ⟨⟨⟩, hx, hxs⟩
      exact ⟨hx, hxs⟩
    · rintro ⟨hx, hxs⟩
      exact ⟨(), hx, hxs⟩

theorem foldlM_cons_eq_ok {f : α → β → Except ε α} {x : β} {xs : List β} {a b : α} :
    (x :: xs).foldlM f a = .ok b ↔ ∃ c, f a x = .ok c ∧ xs.foldlM f c = .ok b :=
  bind_eq_ok

theorem mapM_eq_ok {f : α → Except ε β} {xs : List α} {ys : List β} :
    xs.mapM f = .ok ys ↔ List.Forall₂ (fun x y => f x = .ok y) xs ys := by
  induction xs generalizing ys with
  | nil =>
    rw [List.mapM_nil, pure_eq_ok, List.forall₂_nil_left_iff]
    exact eq_comm
  | cons x xs ih =>
    rw [List.mapM_cons, bind_eq_ok, List.forall₂_cons_left_iff]
    constructor
    · rintro ⟨y, hy, h⟩
      obtain ⟨zs, hzs, h⟩ := bind_eq_ok.1 h
      exact ⟨y, zs, hy, ih.1 hzs, (pure_eq_ok.1 h).symm⟩
    · rintro ⟨y, zs, hy, hzs, rfl⟩
      exact ⟨y, hy, bind_eq_ok.2 ⟨zs, ih.2 hzs, rfl⟩⟩

/-- Attempts whose values are determined give these values. -/
theorem eq_map_of_mapM_eq_ok {f : α → Except ε β} {g : α → β} {xs : List α} {ys : List β}
    (h : xs.mapM f = .ok ys) (hfg : ∀ x ∈ xs, ∀ y, f x = .ok y → y = g x) : ys = xs.map g := by
  induction xs generalizing ys with
  | nil => exact (pure_eq_ok.1 h).symm
  | cons x xs ih =>
    rw [List.mapM_cons] at h
    obtain ⟨y, hy, h⟩ := bind_eq_ok.1 h
    obtain ⟨zs, hzs, h⟩ := bind_eq_ok.1 h
    rw [List.forall_mem_cons] at hfg
    rw [← pure_eq_ok.1 h, List.map_cons, hfg.1 y hy, ih hzs hfg.2]

theorem mapM_eq_ok_mem {f : α → Except ε β} {xs : List α} {ys : List β}
    (h : xs.mapM f = .ok ys) {x : α} (hx : x ∈ xs) : ∃ y ∈ ys, f x = .ok y :=
  exists_of_mem_left (mapM_eq_ok.1 h) hx

theorem exists_mapM_ok {f : α → Except ε β} {P : β → Prop} {xs : List α}
    (h : ∀ x ∈ xs, ∃ y, f x = .ok y ∧ P y) : ∃ ys, xs.mapM f = .ok ys ∧ ∀ y ∈ ys, P y := by
  induction xs with
  | nil => exact ⟨[], rfl, fun _ hy => nomatch hy⟩
  | cons x xs ih =>
    rw [List.forall_mem_cons] at h
    obtain ⟨⟨y, hy, py⟩, hxs⟩ := h
    obtain ⟨ys, hys, pys⟩ := ih hxs
    refine ⟨y :: ys, ?_, List.forall_mem_cons.2 ⟨py, pys⟩⟩
    rw [List.mapM_cons, hy, hys]
    rfl

/-- Changing the values of attempts changes the list of their values. -/
theorem mapM_map {γ : Type} (f : α → Except ε β) (g : β → γ) (xs : List α) :
    xs.mapM (fun x => (f x).map g) = (xs.mapM f).map (List.map g) := by
  induction xs with
  | nil => rfl
  | cons x xs ih =>
    rw [List.mapM_cons, List.mapM_cons, ih]
    cases f x with
    | error e => rfl
    | ok y => cases xs.mapM f <;> rfl

/-! ## Failure -/

/-- The fault of a failed attempt. -/
def fault? : Except ε α → Option ε
  | .error e => some e
  | .ok _ => none

@[simp]
theorem fault?_ok (a : α) : fault? (.ok a : Except ε α) = none := rfl

@[simp]
theorem fault?_error (e : ε) : fault? (.error e : Except ε α) = some e := rfl

theorem fault?_eq_some {x : Except ε α} {e : ε} : fault? x = some e ↔ x = .error e := by
  cases x <;> simp

theorem fault?_eq_none {x : Except ε α} : fault? x = none ↔ ∃ a, x = .ok a := by
  cases x <;> simp

theorem exists_ok_of_isNone {x : Except ε α} (h : (fault? x).isNone = true) : ∃ a, x = .ok a :=
  fault?_eq_none.1 (Option.isNone_iff_eq_none.1 h)

theorem exists_ok_of_map_toOption {x : Except ε α} {f : α → β} {b : β}
    (h : x.toOption.map f = some b) : ∃ a, x = .ok a ∧ f a = b := by
  cases x with
  | error e => cases h
  | ok a => exact ⟨a, rfl, Option.some.inj h⟩

@[simp]
theorem fault?_map (x : Except ε α) (f : α → β) : fault? (x.map f) = fault? x := by
  cases x <;> rfl

@[simp]
theorem fault?_mapError (x : Except ε α) (f : ε → δ) :
    fault? (x.mapError f) = (fault? x).map f := by
  cases x <;> rfl

/-- A step after one that cannot give its fault away: the fault of the sequence is that of the first
step, or else that of the second. -/
theorem fault?_bind (x : Except ε α) (f : α → Except ε β) {later : Option ε}
    (h : ∀ a, x = .ok a → fault? (f a) = later) : fault? (x >>= f) = (fault? x).or later := by
  cases x with
  | error e => rfl
  | ok a => exact h a rfl

/-- Changing the value of an attempt has no fault of its own. -/
@[simp]
theorem fault?_bind_pure (x : Except ε α) (f : α → β) :
    fault? (x >>= fun a => pure (f a)) = fault? x := by
  cases x <;> rfl

/-- The fault of a list of attempts is the first fault of one of them. -/
theorem fault?_mapM (f : α → Except ε β) (xs : List α) :
    fault? (xs.mapM f) = xs.findSome? fun x => fault? (f x) := by
  induction xs with
  | nil => rfl
  | cons x xs ih =>
    rw [List.mapM_cons, List.findSome?_cons]
    cases hx : f x with
    | error e => rfl
    | ok y =>
      rw [fault?_ok, ← ih]
      cases xs.mapM f <;> rfl

/-- Where no step depends on what has been gathered, the first fault of a step is that of all. -/
theorem fault?_foldlM {f : α → β → Except ε α} {stepFault? : β → Option ε}
    (h : ∀ a x, fault? (f a x) = stepFault? x) (xs : List β) (a : α) :
    fault? (xs.foldlM f a) = xs.findSome? stepFault? := by
  induction xs generalizing a with
  | nil => rfl
  | cons x xs ih =>
    rw [List.foldlM_cons, fault?_bind _ _ fun c _ => ih c, h, List.findSome?_cons]
    cases stepFault? x <;> rfl

/-! ## Faults of a kind -/

/-- The attempt fails with a fault of a kind. -/
def Fails (p : ε → Bool) (x : Except ε α) : Prop := ∃ e, x = .error e ∧ p e = true

section Fails

variable {p : ε → Bool} {x : Except ε α} {f : α → Except ε β}

@[simp]
theorem not_fails_ok (a : α) : ¬ Fails p (.ok a : Except ε α) := by simp [Fails]

@[simp]
theorem fails_error {e : ε} : Fails p (.error e : Except ε α) ↔ p e = true := by simp [Fails]

/-- A fault of another kind does not count. -/
theorem not_fails_of_error {e : ε} (h : x = .error e) (he : p e = false) : ¬ Fails p x := by
  rw [h, fails_error, he]
  exact Bool.false_ne_true

theorem fails_iff_fault? : Fails p x ↔ ∃ e, fault? x = some e ∧ p e = true := by
  simp only [Fails, fault?_eq_some]

theorem fails_map {g : α → β} : Fails p (x.map g) ↔ Fails p x := by
  simp only [fails_iff_fault?, fault?_map]

theorem fails_mapError {q : δ → Bool} {g : ε → δ} :
    Fails q (x.mapError g) ↔ Fails (fun e => q (g e)) x := by
  cases x <;> simp [Except.mapError]

theorem not_fails_mapError {q : δ → Bool} {g : ε → δ} (h : ∀ e, q (g e) = false) :
    ¬ Fails q (x.mapError g) := by
  rw [fails_mapError]
  rintro ⟨e, -, he⟩
  exact Bool.false_ne_true ((h e).symm.trans he)

theorem fails_bind : Fails p (x >>= f) ↔ Fails p x ∨ ∃ a, x = .ok a ∧ Fails p (f a) := by
  cases x <;> simp [bind, Except.bind]

theorem fails_bind_pure {g : α → β} : Fails p (x >>= fun a => pure (g a)) ↔ Fails p x := by
  simp only [fails_iff_fault?, fault?_bind_pure]

theorem not_fails_foldlM {g : α → β → Except ε α} (h : ∀ a x, ¬ Fails p (g a x)) (xs : List β)
    (a : α) : ¬ Fails p (xs.foldlM g a) := by
  induction xs generalizing a with
  | nil => exact not_fails_ok a
  | cons y ys ih =>
    rw [List.foldlM_cons, fails_bind]
    rintro (hy | ⟨c, -, hys⟩)
    · exact h a y hy
    · exact ih c hys

/-- Of a list of attempts the first that fails counts. -/
theorem fails_mapM {xs : List α} :
    Fails p (xs.mapM f) ↔ ∃ before y after, xs = before ++ y :: after ∧
      (∀ b ∈ before, ∃ z, f b = .ok z) ∧ Fails p (f y) := by
  simp only [fails_iff_fault?, fault?_mapM, List.findSome?_eq_some_iff, fault?_eq_none]
  constructor
  · rintro ⟨e, ⟨before, y, after, hxs, hy, hbefore⟩, he⟩
    exact ⟨before, y, after, hxs, hbefore, e, hy, he⟩
  · rintro ⟨before, y, after, hxs, hbefore, e, hy, he⟩
    exact ⟨e, ⟨before, y, after, hxs, hy, hbefore⟩, he⟩

end Fails

end SdlPhp.Attempt
