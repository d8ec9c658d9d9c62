import SdlPhp.Delivery.Command

/-!
# Steps of a run

A step of a run has an outcome and leaves some progress behind. Most steps only talk: they keep the
world and the output, and the only faults that they have are faults for which the command has no
message. This file gives the rules by which a step is seen to be quiet in this sense, and the end of
a run after its steps (`exited_conclude`).
-/

namespace SdlPhp

/-- The exit code of a run that has one. -/
def Ending.code? : Ending → Option Nat
  | exited code => some code
  | _ => none

theorem Ending.code?_eq_some_iff {e : Ending} {code : Nat} :
    e.code? = some code ↔ e = .exited code := by
  cases e <;> simp [code?]

namespace Command

variable {α β : Type}

/-- The outcome of a step, and the progress behind it. -/
def runFrom (p : Progress) (x : Running α) : Except CommandFault α × Progress :=
  (ExceptT.run x).run p

@[simp]
theorem runFrom_pure (p : Progress) (a : α) : runFrom p (pure a) = (.ok a, p) := rfl

@[simp]
theorem runFrom_throw (p : Progress) (fault : CommandFault) :
    runFrom p (throw fault : Running α) = (.error fault, p) := rfl

@[simp]
theorem runFrom_modify (p : Progress) (f : Progress → Progress) :
    runFrom p (modify f : Running PUnit) = (.ok ⟨⟩, f p) := rfl

@[simp]
theorem runFrom_get (p : Progress) : runFrom p (get : Running Progress) = (.ok p, p) := rfl

theorem runFrom_bind (p : Progress) (x : Running α) (f : α → Running β) :
    runFrom p (x >>= f) =
      match runFrom p x with
      | (.ok a, q) => runFrom q (f a)
      | (.error fault, q) => (.error fault, q) := by
  simp only [runFrom, ExceptT.run_bind, StateT.run_bind]
  rcases (ExceptT.run x).run p with ⟨_ | a, q⟩ <;> rfl

theorem runFrom_tryCatch (p : Progress) (x : Running α) (f : CommandFault → Running α) :
    runFrom p (tryCatch x f) =
      match runFrom p x with
      | (.ok a, q) => (.ok a, q)
      | (.error fault, q) => runFrom q (f fault) := by
  simp only [runFrom, ExceptT.run, StateT.run, tryCatch, tryCatchThe, MonadExceptOf.tryCatch,
    ExceptT.tryCatch, ExceptT.mk, bind, StateT.bind]
  rcases x p with ⟨_ | a, q⟩ <;> rfl

theorem runFrom_bind_eq_ok {p q : Progress} {x : Running α} {f : α → Running β} {b : β} :
    runFrom p (x >>= f) = (.ok b, q) ↔
      ∃ a r, runFrom p x = (.ok a, r) ∧ runFrom r (f a) = (.ok b, q) := by
  rw [runFrom_bind]
  rcases runFrom p x with ⟨_ | a, r⟩ <;> simp [and_assoc]

theorem runFrom_bind_eq_error {p q : Progress} {x : Running α} {f : α → Running β}
    {fault : CommandFault} :
    runFrom p (x >>= f) = (.error fault, q) ↔
      runFrom p x = (.error fault, q) ∨
        ∃ a r, runFrom p x = (.ok a, r) ∧ runFrom r (f a) = (.error fault, q) := by
  rw [runFrom_bind]
  rcases runFrom p x with ⟨_ | a, r⟩ <;> simp [and_assoc]

/-! ## Quiet steps -/

/-- The step keeps the world and the output, and where it fails, its fault is not told. -/
structure Quiet (x : Running α) : Prop where
  world : ∀ p, (runFrom p x).2.world = p.world
  stdout : ∀ p, (runFrom p x).2.stdout = p.stdout
  untold : ∀ p q fault, runFrom p x = (.error fault, q) → isUntold fault = true

theorem Quiet.kept {x : Running α} (hx : Quiet x) {p q : Progress}
    {outcome : Except CommandFault α} (h : runFrom p x = (outcome, q)) :
    q.world = p.world ∧ q.stdout = p.stdout := by
  have world := hx.world p
  have stdout := hx.stdout p
  rw [h] at world stdout
  exact ⟨world, stdout⟩

theorem quiet_pure (a : α) : Quiet (pure a) where
  world := fun _ => rfl
  stdout := fun _ => rfl
  untold := fun _ _ _ h => nomatch h

theorem quiet_throw {fault : CommandFault} (h : isUntold fault = true) :
    Quiet (throw fault : Running α) where
  world := fun _ => rfl
  stdout := fun _ => rfl
  untold := by
    rintro p q _ ⟨⟩
    exact h

/-- What quiet steps keep one after the other is kept by all of them. -/
theorem kept_bind {γ : Type} (part : Progress → γ) {x : Running α} {f : α → Running β}
    (hx : ∀ p, part (runFrom p x).2 = part p) (hf : ∀ a p, part (runFrom p (f a)).2 = part p)
    (p : Progress) : part (runFrom p (x >>= f)).2 = part p := by
  have first := hx p
  rw [runFrom_bind]
  rcases hrun : runFrom p x with ⟨_ | a, q⟩ <;> rw [hrun] at first
  · exact first
  · exact (hf a q).trans first

theorem Quiet.bind {x : Running α} {f : α → Running β} (hx : Quiet x) (hf : ∀ a, Quiet (f a)) :
    Quiet (x >>= f) where
  world := kept_bind Progress.world hx.world fun a => (hf a).world
  stdout := kept_bind Progress.stdout hx.stdout fun a => (hf a).stdout
  untold := by
    intro p q fault h
    rcases runFrom_bind_eq_error.1 h with h | ⟨a, r, -, h⟩
    · exact hx.untold p q fault h
    · exact (hf a).untold r q fault h

theorem quiet_showLines (lines : List String) : Quiet (showLines lines) where
  world := fun _ => rfl
  stdout := fun _ => rfl
  untold := fun _ _ _ h => nomatch h

theorem quiet_ofMarkup (x : Except Markup.Fault α) : Quiet (ofMarkup x) := by
  cases x with
  | ok v => exact quiet_pure v
  | error fault => exact quiet_throw rfl

theorem quiet_say (text : String) : Quiet (say text) :=
  (quiet_ofMarkup _).bind quiet_showLines

theorem quiet_sayTable (title : String) (rows : List (String × String)) :
    Quiet (sayTable title rows) :=
  (quiet_ofMarkup _).bind quiet_showLines

theorem quiet_sayScalars (g : Generator) (r : Registry) : Quiet (sayScalars g r) := by
  refine Quiet.bind ?_ fun m => quiet_sayTable _ _
  cases g.typeMap r with
  | ok m => exact quiet_pure m
  | error fault => exact quiet_throw rfl

theorem quiet_sayMetadata (g : Generated) : Quiet (sayMetadata g) := quiet_sayTable _ _

theorem quiet_ite {c : Bool} {x : Running α} {a : α} (hx : Quiet x) :
    Quiet (if c then x else pure a) := by
  cases c with
  | true => exact hx
  | false => exact quiet_pure a

theorem quiet_foldlM {f : PUnit → α → Running PUnit} (hf : ∀ u a, Quiet (f u a)) (as : List α) :
    Quiet (as.foldlM f ⟨⟩) := by
  induction as with
  | nil => exact quiet_pure _
  | cons a as ih =>
    rw [List.foldlM_cons]
    exact (hf ⟨⟩ a).bind fun _ => ih

/-- The warnings are shown one after the other. -/
theorem sayWarnings_eq (warnings : List String) :
    sayWarnings warnings = (do
      (if warnings.isEmpty then pure ⟨⟩ else say "[yellow]⚠️  Warnings:[/yellow]")
      warnings.foldlM (fun _ w => say ("  [yellow]•[/yellow] " ++ Markup.escape w)) ⟨⟩) := by
  cases warnings <;> simp [sayWarnings]

theorem quiet_sayWarnings (warnings : List String) : Quiet (sayWarnings warnings) := by
  rw [sayWarnings_eq]
  refine Quiet.bind ?_ fun _ => quiet_foldlM (fun _ w => quiet_say _) warnings
  split
  · exact quiet_pure _
  · exact quiet_say _

theorem quiet_tell (fault : CommandFault) : Quiet (tell fault) :=
  (quiet_say _).bind fun _ => quiet_pure 1

/-! ## The end of a run -/

theorem conclude_eq (p : Progress) (x : Running Nat) (requests : List (String × Given Int)) :
    conclude p x requests =
      match runFrom p (tryCatch x fun fault => if isUntold fault then throw fault else tell fault) with
      | (.ok code, q) => finish q (.exited code) requests
      | (.error fault, q) => finish q (.escaped fault) requests := rfl

/-- A run that breaks off with a fault that is not told ends with it. -/
theorem conclude_of_untold {p q : Progress} {x : Running Nat} {fault : CommandFault}
    (h : runFrom p x = (.error fault, q)) (untold : isUntold fault = true)
    (requests : List (String × Given Int)) :
    conclude p x requests = finish q (.escaped fault) requests := by
  rw [conclude_eq, runFrom_tryCatch, h]
  simp [untold]

theorem tell_eq_ok {fault : CommandFault} {p : Progress} {code : Nat}
    (h : (runFrom p (tell fault)).1 = .ok code) : code = 1 := by
  rw [tell, runFrom_bind] at h
  split at h
  · cases h
    rfl
  · cases h

/-- A run exits with the code that its steps give, or with 1 where a fault is told, which keeps the
world and the output. -/
theorem exited_conclude {p : Progress} {x : Running Nat} {requests : List (String × Given Int)}
    {code : Nat} (h : (conclude p x requests).ending = .exited code) :
    ∃ outcome q, runFrom p x = (outcome, q) ∧
      (conclude p x requests).world = q.world ∧ (conclude p x requests).stdout = q.stdout ∧
      (outcome = .ok code ∨
        code = 1 ∧ ∃ fault, outcome = .error fault ∧ isUntold fault = false) := by
  rw [conclude_eq, runFrom_tryCatch] at h ⊢
  cases hrun : runFrom p x with | mk outcome q
  rw [hrun] at h
  cases outcome with
  | error fault =>
    refine ⟨.error fault, q, rfl, ?_⟩
    cases hfault : isUntold fault with
    | true => simp [hfault, finish] at h
    | false =>
      simp only [hfault, Bool.false_eq_true, if_false] at h ⊢
      have quiet := quiet_tell fault
      have world := quiet.world q
      have stdout := quiet.stdout q
      have exit (code : Nat) : (runFrom q (tell fault)).1 = .ok code → code = 1 := tell_eq_ok
      rcases htell : runFrom q (tell fault) with ⟨_ | a, r⟩ <;>
        rw [htell] at h world stdout exit
      · cases h
      · cases h
        exact ⟨world, stdout, .inr ⟨exit code rfl, fault, rfl, hfault⟩⟩
  | ok a =>
    cases h
    exact ⟨.ok code, q, rfl, rfl, rfl, .inl rfl⟩

/-- A run that fails before its first step exits with 1, if at all. -/
theorem exited_conclude_throw {p : Progress} {fault : CommandFault}
    {requests : List (String × Given Int)} {code : Nat}
    (h : (conclude p (throw fault) requests).ending = .exited code) :
    code = 1 ∧ (conclude p (throw fault) requests).world = p.world ∧
      (conclude p (throw fault) requests).stdout = p.stdout := by
  obtain ⟨outcome, q, hq, world, stdout, hcode⟩ := exited_conclude h
  cases hq
  rcases hcode with hcode | ⟨hcode, -⟩
  · cases hcode
  · exact ⟨hcode, world, stdout⟩

end Command

end SdlPhp
