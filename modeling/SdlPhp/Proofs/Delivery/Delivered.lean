import SdlPhp.Generation.Result
import SdlPhp.Proofs.Delivery.Running
import SdlPhp.Proofs.Options.Room
import SdlPhp.Proofs.World.Files

/-!
# Delivery

What a run that exits leaves behind: with the code 1 nothing but messages, and with the code 0 the
whole code of a result, in the named file or else in the output, and nothing else. Directories are
no files: the ones on the way to the named file may be made before the file system refuses it.
Main statement: `Command.exited_delivered`.
-/

namespace SdlPhp

open Attempt

namespace Command

/-- The code has been brought to the named file, or else to the output, and nowhere else. -/
def Delivered (before : World) (output : Option String) (code : String) (after : World)
    (stdout : String) : Prop :=
  match Arguments.nonEmpty output with
  | none => stdout = code ∧ after.files = before.files
  | some file => stdout = "" ∧
      ∃ bytes, Text.encode? code = some bytes ∧ before.Saves (Path.ofText file) bytes after

variable {w w' : World} {path : Path} {code : String} {p q : Progress}

/-! ## Writing the code -/

/-- The code is written where directories have been made, or no file is touched. -/
theorem writeCode_cases {fault? : Option CommandFault} (h : writeCode w path code = (w', fault?)) :
    ((∃ fault, fault? = some fault) ∧ w'.files = w.files) ∨
      ∃ made : World, made.files = w.files ∧
        made.write path ((Text.encode? code).getD ByteArray.empty) = .ok w' ∧
        fault? = if (Text.encode? code).isSome then none else some .unencodable := by
  have files := w.files_ensureDirectory path.parent path.parent.parts.length
  rcases hmade : w.ensureDirectory path.parent path.parent.parts.length with
    ⟨made, _ | ⟨fault, refused⟩⟩ <;> rw [hmade] at files <;> simp only [writeCode, hmade] at h
  · cases hwrite : made.write path ((Text.encode? code).getD ByteArray.empty) with
    | error fault =>
      rw [hwrite] at h
      cases h
      exact .inl ⟨⟨_, rfl⟩, files⟩
    | ok written =>
      rw [hwrite] at h
      cases h
      exact .inr ⟨made, files, hwrite, rfl⟩
  · cases h
    exact .inl ⟨⟨_, rfl⟩, files⟩

theorem saves_of_writeCode (h : writeCode w path code = (w', none)) :
    ∃ bytes, Text.encode? code = some bytes ∧ w.Saves path bytes w' := by
  rcases writeCode_cases h with ⟨⟨fault, hfault⟩, -⟩ | ⟨made, files, hwrite, hnone⟩
  · cases hfault
  · cases hbytes : Text.encode? code with
    | none => simp [hbytes] at hnone
    | some bytes =>
      rw [hbytes] at hwrite
      exact ⟨bytes, rfl, (World.saves_of_write hwrite).of_files files⟩

/-- A fault that is told comes before any file is touched; that the code has no bytes is not told. -/
theorem files_of_writeCode {fault : CommandFault} (h : writeCode w path code = (w', some fault))
    (told : isUntold fault = false) : w'.files = w.files := by
  rcases writeCode_cases h with ⟨-, files⟩ | ⟨made, files, hwrite, hfault⟩
  · exact files
  · split at hfault
    · cases hfault
    · cases hfault
      cases told

/-! ## Steps -/

variable {output : Option String} {file : String}

/-- The output gets the code if it takes it, and else nothing. -/
theorem runFrom_deliver_of_none (h : Arguments.nonEmpty output = none) (p : Progress) :
    runFrom p (deliver output code) =
      if p.world.outputTakes code then (.ok (), { p with stdout := p.stdout ++ code })
      else (.error .unencodable, p) := by
  simp only [deliver, h, runFrom_bind, runFrom_get]
  cases p.world.outputTakes code <;> rfl

theorem runFrom_deliver_of_some (h : Arguments.nonEmpty output = some file) (p : Progress) :
    runFrom p (deliver output code) =
      let written := writeCode p.world (Path.ofText file) code
      match written.2 with
      | some fault => (.error fault, { p with world := written.1 })
      | none => runFrom { p with world := written.1 } (say
          ("[green]✓[/green] PHP code saved to [cyan]" ++ (Path.ofText file).text ++ "[/cyan]")) := by
  simp only [deliver, h, runFrom_bind, runFrom_get, runFrom_modify]
  rcases writeCode p.world (Path.ofText file) code with ⟨after, _ | fault⟩ <;> rfl

theorem delivered_of_deliver {u : Unit} (h : runFrom p (deliver output code) = (.ok u, q))
    (hp : p.stdout = "") : Delivered p.world output code q.world q.stdout := by
  unfold Delivered
  cases houtput : Arguments.nonEmpty output with
  | none =>
    rw [runFrom_deliver_of_none houtput] at h
    split at h
    · cases h
      simp [hp]
    · cases h
  | some file =>
    rw [runFrom_deliver_of_some houtput] at h
    rcases hwritten : writeCode p.world (Path.ofText file) code with ⟨after, _ | fault⟩ <;>
      rw [hwritten] at h
    · obtain ⟨world, stdout⟩ := (quiet_say _).kept h
      rw [world, stdout]
      exact ⟨hp, saves_of_writeCode hwritten⟩
    · cases h

theorem withheld_of_deliver {fault : CommandFault}
    (h : runFrom p (deliver output code) = (.error fault, q)) (told : isUntold fault = false) :
    q.stdout = p.stdout ∧ q.world.files = p.world.files := by
  cases houtput : Arguments.nonEmpty output with
  | none =>
    rw [runFrom_deliver_of_none houtput] at h
    split at h
    · cases h
    · cases h
      cases told
  | some file =>
    rw [runFrom_deliver_of_some houtput] at h
    rcases hwritten : writeCode p.world (Path.ofText file) code with ⟨after, _ | other⟩ <;>
      rw [hwritten] at h
    · rw [(quiet_say _).untold _ _ _ h] at told
      cases told
    · cases h
      exact ⟨rfl, files_of_writeCode hwritten told⟩

/-! ## Generating and delivering -/

variable {a : Arguments} {o : Options} {s : Schema}

theorem produce_of_error {fault : Php.FragmentFault}
    (h : Generator.run { options := o } s = .error fault) :
    produce a o s = (do
      (if fault.isBreak then throw (.generation fault) else pure ⟨⟩)
      say ("[red]✗ " ++ Markup.escape (failureMessage fault) ++ "[/red]")
      return 1) := by
  simp only [produce, h]
  split <;> simp

theorem produce_of_ok {generated : Generated}
    (h : Generator.run { options := o } s = .ok generated) :
    produce a o s = (do
      (if a.verbose then sayScalars { options := o } s.registry else pure ⟨⟩)
      deliver a.output generated.code
      (if a.verbose then sayMetadata generated else pure ⟨⟩)
      sayWarnings generated.warnings
      return 0) := by
  simp only [produce, h]
  split <;> simp

theorem quiet_produce_of_error {fault : Php.FragmentFault}
    (h : Generator.run { options := o } s = .error fault) : Quiet (produce a o s) := by
  rw [produce_of_error h]
  refine Quiet.bind ?_ fun _ => (quiet_say _).bind fun _ => quiet_pure 1
  split
  · exact quiet_throw rfl
  · exact quiet_pure _

theorem eq_one_of_produce_of_error {fault : Php.FragmentFault} {code : Nat}
    (h : Generator.run { options := o } s = .error fault)
    (hrun : runFrom p (produce a o s) = (.ok code, q)) : code = 1 := by
  rw [produce_of_error h] at hrun
  obtain ⟨_, _, -, hrun⟩ := runFrom_bind_eq_ok.1 hrun
  obtain ⟨_, _, -, hrun⟩ := runFrom_bind_eq_ok.1 hrun
  cases hrun
  rfl

/-- What is said of a run behind the delivery. -/
theorem quiet_afterwards (a : Arguments) (generated : Generated) :
    Quiet (do
      (if a.verbose then sayMetadata generated else pure ⟨⟩)
      sayWarnings generated.warnings
      return 0) :=
  (quiet_ite (quiet_sayMetadata generated)).bind fun _ =>
    (quiet_sayWarnings _).bind fun _ => quiet_pure 0

/-- A run that gets to its end has delivered the code and then only talked. -/
theorem delivered_of_produce {generated : Generated} {code : Nat}
    (h : Generator.run { options := o } s = .ok generated)
    (hrun : runFrom p (produce a o s) = (.ok code, q)) (hp : p.stdout = "") :
    code = 0 ∧ Delivered p.world a.output generated.code q.world q.stdout := by
  rw [produce_of_ok h] at hrun
  obtain ⟨_, before, hbefore, hrun⟩ := runFrom_bind_eq_ok.1 hrun
  obtain ⟨_, after, hdeliver, hrun⟩ := runFrom_bind_eq_ok.1 hrun
  obtain ⟨world, stdout⟩ := (quiet_ite (quiet_sayScalars _ _)).kept hbefore
  obtain ⟨world', stdout'⟩ := (quiet_afterwards a generated).kept hrun
  obtain ⟨_, _, -, hrun⟩ := runFrom_bind_eq_ok.1 hrun
  obtain ⟨_, _, -, hrun⟩ := runFrom_bind_eq_ok.1 hrun
  cases hrun
  rw [world', stdout', ← world]
  exact ⟨rfl, delivered_of_deliver hdeliver (stdout.trans hp)⟩

/-- Where a fault is told, the delivery has failed. -/
theorem withheld_of_produce {fault : CommandFault}
    (hrun : runFrom p (produce a o s) = (.error fault, q)) (told : isUntold fault = false) :
    q.stdout = p.stdout ∧ q.world.files = p.world.files := by
  cases h : Generator.run { options := o } s with
  | error other =>
    rw [(quiet_produce_of_error h).untold _ _ _ hrun] at told
    cases told
  | ok generated =>
    rw [produce_of_ok h] at hrun
    have scalars : Quiet (if a.verbose then sayScalars { options := o } s.registry else pure ⟨⟩) :=
      quiet_ite (quiet_sayScalars _ _)
    rcases runFrom_bind_eq_error.1 hrun with hbefore | ⟨_, before, hbefore, hrun⟩
    · rw [scalars.untold _ _ _ hbefore] at told
      cases told
    · obtain ⟨world, stdout⟩ := scalars.kept hbefore
      rcases runFrom_bind_eq_error.1 hrun with hdeliver | ⟨_, after, -, hrun⟩
      · rw [← world, ← stdout]
        exact withheld_of_deliver hdeliver told
      · rw [(quiet_afterwards a generated).untold _ _ _ hrun] at told
        cases told

/-! ## Running -/

theorem options_of_room {room : Option Nat} (h : a.options w room = .ok o) :
    a.options w = .ok o := by
  obtain ⟨base, hbase, h⟩ := bind_eq_ok.1 h
  have hload := Options.load_of_room (mapError_eq_ok.1 hbase)
  exact bind_eq_ok.2 ⟨base, mapError_eq_ok.2 hload, h⟩

/-- A command that ends with an exit code has delivered the code of a run that has one, or nothing. -/
theorem withheld_or_delivered {words : List String} {a : Arguments}
    (hread : Arguments.read words = .ok a) {code : Nat}
    (hexit : (run w words).ending = .exited code) :
    (code = 1 ∧ (run w words).stdout = "" ∧ (run w words).world.files = w.files) ∨
      (code = 0 ∧ ∃ o s generated, a.options w = .ok o ∧
        (Source.run (Source.schema w a.sources a.timeout)).1 = .ok s ∧
        Generator.run { options := o } s = .ok generated ∧
        Delivered w a.output generated.code (run w words).world (run w words).stdout) := by
  rw [run, hread] at hexit ⊢
  simp only [execute] at hexit ⊢
  cases ho : a.options w w.room with
  | error fault =>
    rw [ho] at hexit
    obtain ⟨hcode, world, stdout⟩ := exited_conclude_throw hexit
    exact .inl ⟨hcode, stdout, congrArg World.files world⟩
  | ok o =>
    rw [ho] at hexit
    rw [options_of_room ho]
    rcases hs : Source.run (Source.schema w a.sources a.timeout) with ⟨fault | s, trace⟩ <;>
      rw [hs] at hexit
    · obtain ⟨hcode, world, stdout⟩ := exited_conclude_throw hexit
      exact .inl ⟨hcode, stdout, congrArg World.files world⟩
    · obtain ⟨outcome, q, hq, world, stdout, hcode⟩ := exited_conclude hexit
      simp only [world, stdout]
      rcases hcode with rfl | ⟨rfl, fault, rfl, told⟩
      · cases hrun : Generator.run { options := o } s with
        | error fault =>
          obtain ⟨world', stdout'⟩ := (quiet_produce_of_error hrun).kept hq
          exact .inl ⟨eq_one_of_produce_of_error hrun hq, stdout', congrArg World.files world'⟩
        | ok generated =>
          obtain ⟨hcode, hdelivered⟩ := delivered_of_produce hrun hq rfl
          exact .inr ⟨hcode, o, s, generated, rfl, rfl, hrun, hdelivered⟩
      · exact .inl ⟨rfl, withheld_of_produce hq told⟩

/-- All or nothing: where a command line that can be read ends with an exit code, the code is 1 and
nothing is delivered, or it is 0 and the whole code of the result is. -/
theorem exited_delivered {words : List String} {a : Arguments} (hread : Arguments.read words = .ok a)
    {code : Nat} (hexit : (run w words).ending = .exited code) :
    (code = 1 ∧ (run w words).stdout = "" ∧ (run w words).world.files = w.files) ∨
      (code = 0 ∧ ∃ o s r, a.options w = .ok o ∧
        (Source.run (Source.schema w a.sources a.timeout)).1 = .ok s ∧
        Generator.generate { options := o } s = .ok r ∧ r.success = true ∧
        Delivered w a.output r.code (run w words).world (run w words).stdout) := by
  refine (withheld_or_delivered hread hexit).imp_right ?_
  rintro ⟨hcode, o, s, generated, ho, hs, hrun, hdelivered⟩
  refine ⟨hcode, o, s, .succeeded generated, ho, hs, ?_, rfl, hdelivered⟩
  rw [Generator.generate, hrun]
  rfl

/-- A schema that stands in a file, without a file for the code. -/
theorem exited_delivered_input :
    let w : World := { files := [(["s.graphql"], "input A { x: Int }".toUTF8)] }
    ∃ o s r, Arguments.options { sources := ["s.graphql"] } w = .ok o ∧
      (Source.run (Source.schema w ["s.graphql"] (Given.value (30 : Int)))).1 = .ok s ∧
      Generator.generate { options := o } s = .ok r ∧ r.success = true ∧
      (run w ["s.graphql"]).stdout = r.code ∧ (run w ["s.graphql"]).world.files = w.files := by
  intro w
  have hread : Arguments.read ["s.graphql"] = .ok { sources := ["s.graphql"] } := by
    decide +kernel
  have hexit : (run w ["s.graphql"]).ending = .exited 0 := by
    rw [← Ending.code?_eq_some_iff]
    decide +kernel
  -- the world is not to be computed with any more
  clear_value w
  rcases exited_delivered hread hexit with ⟨hcode, -⟩ | ⟨-, o, s, r, ho, hs, hr, success, delivered⟩
  · cases hcode
  · exact ⟨o, s, r, ho, hs, hr, success, delivered⟩

end Command

end SdlPhp
