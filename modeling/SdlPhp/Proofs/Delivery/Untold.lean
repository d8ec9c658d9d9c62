import SdlPhp.Proofs.Delivery.Arguments
import SdlPhp.Proofs.Delivery.EntryPoints
import SdlPhp.Proofs.Delivery.Table
import SdlPhp.Proofs.Generation.Outcome
import SdlPhp.Proofs.Options.Untold
import SdlPhp.Proofs.Schema.Untold

/-!
# Runs that end without a message

What makes a run of the command end with a fault that it does not tell. The causes are listed layer
by layer: those of writing the code, of a run over a schema, and of the whole command. Main
statement: `escaped_iff`.
-/

namespace SdlPhp.Command

open Attempt

variable {α β : Type} {w : World} {a : Arguments} {o : Options} {s : Schema} {p : Progress}
  {path : Path} {code : String}

/-! ## Steps that escape -/

/-- The step fails, behind this progress, with a fault that is not told. -/
def Escapes (p : Progress) (x : Running α) : Prop := Fails isUntold (runFrom p x).1

theorem escapes_bind {x : Running α} {f : α → Running β} :
    Escapes p (x >>= f) ↔ Escapes p x ∨ ∃ a q, runFrom p x = (.ok a, q) ∧ Escapes q (f a) := by
  unfold Escapes
  rw [runFrom_bind]
  rcases runFrom p x with ⟨fault | a, q⟩ <;> simp

theorem not_escapes_of_ok {x : Running α} {b : α} {q : Progress} (h : runFrom p x = (.ok b, q)) :
    ¬ Escapes p x := by
  simp [Escapes, h]

theorem escapes_throw {fault : CommandFault} :
    Escapes p (throw fault : Running α) ↔ isUntold fault = true := by
  simp [Escapes]

/-- What is said escapes where its markup is broken. -/
theorem escapes_ofMarkup {x : Except Markup.Fault (List String)} :
    Escapes p (ofMarkup x >>= showLines) ↔ ∃ fault, x = .error fault := by
  cases x with
  | ok ls => exact iff_of_false (not_escapes_of_ok rfl) (by simp)
  | error fault => exact iff_of_true ⟨_, rfl, rfl⟩ ⟨fault, rfl⟩

theorem escapes_conclude_iff {x : Running Nat} {requests : List (String × Given Int)} :
    (∃ fault, (conclude p x requests).ending = .escaped fault) ↔ Escapes p x := by
  rw [conclude_eq, runFrom_tryCatch, Escapes]
  rcases runFrom p x with ⟨fault | code, q⟩
  · cases hfault : isUntold fault with
    | true => simp [hfault, finish]
    | false =>
      obtain ⟨r, hr⟩ := exists_tell fault q
      simp [hfault, hr, finish]
  · simp [finish]

/-! ## Writing the code -/

/-- The code cannot be written under the path, and this is not told: the path leads nowhere, unless
the file system refuses the directories before it comes to the path, or the code holds half a
surrogate pair. -/
inductive UntoldWriting (w : World) (path : Path) (code : String) : Prop
  | nowhere (hpath : path.LeadsNowhere)
      (hdirs : path.parent.LeadsNowhere ∨
        ∃ made, w.ensureDirectory path.parent path.parent.parts.length = (made, none))
  | unencodable {made written : World}
      (hdirs : w.ensureDirectory path.parent path.parent.parts.length = (made, none))
      (hwrite : made.write path ByteArray.empty = .ok written) (h : Text.encode? code = none)

theorem writeCode_of_refused {made : World} {fault : SystemFault} {refused : Path}
    (h : w.ensureDirectory path.parent path.parent.parts.length = (made, some (fault, refused))) :
    writeCode w path code = (made, some (.writing path refused fault)) := by
  simp only [writeCode, h]

theorem untold_writeCode_of_made {made : World}
    (hdirs : w.ensureDirectory path.parent path.parent.parts.length = (made, none)) :
    (∃ fault, (writeCode w path code).2 = some fault ∧ isUntold fault = true) ↔
      path.LeadsNowhere ∨ (∃ written, made.write path ByteArray.empty = .ok written) ∧
        Text.encode? code = none := by
  have nowhere (bytes : ByteArray) :
      Fails SystemFault.isNoPath (made.write path bytes) ↔ path.LeadsNowhere :=
    World.fails_write_iff
  cases hbytes : Text.encode? code with
  | some bytes =>
    rw [← nowhere bytes]
    cases hwrite : made.write path bytes <;> simp [writeCode, hdirs, hbytes, hwrite, isUntold]
  | none =>
    rw [← nowhere ByteArray.empty]
    cases hwrite : made.write path ByteArray.empty <;>
      simp [writeCode, hdirs, hbytes, hwrite, isUntold]

theorem untold_writeCode_iff (w : World) (path : Path) (code : String) :
    (∃ fault, (writeCode w path code).2 = some fault ∧ isUntold fault = true) ↔
      UntoldWriting w path code := by
  rcases hdirs : w.ensureDirectory path.parent path.parent.parts.length with
    ⟨made, _ | ⟨fault, refused⟩⟩
  · rw [untold_writeCode_of_made hdirs]
    constructor
    · rintro (hpath | ⟨⟨written, hwrite⟩, h⟩)
      · exact .nowhere hpath (.inr ⟨made, hdirs⟩)
      · exact .unencodable hdirs hwrite h
    · rintro (⟨hpath, -⟩ | ⟨hother, hwrite, h⟩)
      · exact .inl hpath
      · cases hdirs.symm.trans hother
        exact .inr ⟨⟨_, hwrite⟩, h⟩
  · rw [writeCode_of_refused hdirs]
    constructor
    · rintro ⟨_, ⟨⟩, hno⟩
      have hparent := World.leadsNowhere_of_ensureDirectory hdirs hno
      exact .nowhere hparent.of_parent (.inl hparent)
    · rintro (⟨-, hparent | ⟨other, hother⟩⟩ | ⟨hother, -, -⟩)
      · obtain ⟨other, hother, hno⟩ :=
          w.ensureDirectory_of_leadsNowhere hparent path.parent.parts.length
        cases hdirs.symm.trans hother
        exact ⟨_, rfl, hno⟩
      · cases hdirs.symm.trans hother
      · cases hdirs.symm.trans hother

/-! ## Delivery -/

/-- What is said of a file in which the code is. -/
def savedText (path : Path) : String :=
  "[green]✓[/green] PHP code saved to [cyan]" ++ path.text ++ "[/cyan]"

/-- What is wrong with bringing the code to the named file is not told; of a path whose name is
broken markup this is so only where the code is in the file. Nor is it told that the output does not
take the code. -/
inductive UntoldDelivery (w : World) (output : Option String) (code : String) : Prop
  | printing (hfile : Arguments.nonEmpty output = none) (h : w.outputTakes code = false)
  | writing {file : String} (hfile : Arguments.nonEmpty output = some file)
      (h : UntoldWriting w (Path.ofText file) code)
  | saved {file : String} {written : World} {fault : Markup.Fault}
      (hfile : Arguments.nonEmpty output = some file)
      (hwritten : writeCode w (Path.ofText file) code = (written, none))
      (h : Markup.lines (savedText (Path.ofText file)) = .error fault)

theorem escapes_say {text : String} :
    Escapes p (say text) ↔ ∃ fault, Markup.lines text = .error fault := escapes_ofMarkup

theorem escapes_deliver_iff {output : Option String} :
    Escapes p (deliver output code) ↔ UntoldDelivery p.world output code := by
  cases hfile : Arguments.nonEmpty output with
  | none =>
    rw [Escapes, runFrom_deliver_of_none hfile]
    cases htakes : p.world.outputTakes code with
    | true =>
      refine iff_of_false (not_fails_ok ()) ?_
      rintro (⟨-, hrefused⟩ | ⟨hother, -⟩ | ⟨hother, -, -⟩)
      · cases htakes.symm.trans hrefused
      · cases hfile.symm.trans hother
      · cases hfile.symm.trans hother
    | false => exact iff_of_true (fails_error.2 rfl) (.printing hfile htakes)
  | some file =>
    have untold := untold_writeCode_iff p.world (Path.ofText file) code
    rw [Escapes, runFrom_deliver_of_some hfile]
    rcases hwritten : writeCode p.world (Path.ofText file) code with ⟨written, _ | fault⟩ <;>
      rw [hwritten] at untold
    · have safe : ¬ UntoldWriting p.world (Path.ofText file) code := by simp [← untold]
      refine escapes_say.trans ⟨fun ⟨fault, h⟩ => .saved hfile hwritten h, ?_⟩
      rintro (⟨hother, h⟩ | ⟨hother, h⟩ | ⟨hother, -, h⟩) <;> cases hfile.symm.trans hother
      · exact absurd h safe
      · exact ⟨_, h⟩
    · have broken : isUntold fault = true ↔ UntoldWriting p.world (Path.ofText file) code := by
        simp [← untold]
      refine fails_error.trans (broken.trans ⟨.writing hfile, ?_⟩)
      rintro (⟨hother, h⟩ | ⟨hother, h⟩ | ⟨hother, hsaved, -⟩) <;> cases hfile.symm.trans hother
      · exact h
      · cases hwritten.symm.trans hsaved

/-! ## Runs over a schema -/

/-- The table of the types of the scalars. -/
def scalarTable (m : Php.TypeMap) : Table :=
  ⟨"Scalar Mapping", ("GraphQL", "PHP") ::
    (m.scalarTable.mapValues Setting.text).mergeSort fun a b => Text.inOrder a.1 b.1⟩

/-- What is wrong with a run over a schema is not told. -/
inductive UntoldRun (w : World) (a : Arguments) (o : Options) (s : Schema) : Prop
  /-- The first enum is reached and has no indentation. -/
  | indentation {fault : IndentFault} (hreaches : s.ReachesEnum o) (h : o.indent = .error fault)
  /-- The table that is asked for holds broken markup. -/
  | scalars {generated : Generated} {m : Php.TypeMap} {fault : Markup.Fault}
      (hrun : Generator.run { options := o } s = .ok generated) (hverbose : a.verbose = true)
      (hm : Php.TypeMap.ofOptions s.registry o = .ok m) (h : (scalarTable m).lines = .error fault)
  | delivery {generated : Generated} (hrun : Generator.run { options := o } s = .ok generated)
      (h : UntoldDelivery w a.output generated.code)

theorem sayScalars_eq {m : Php.TypeMap} (hm : Php.TypeMap.ofOptions s.registry o = .ok m) :
    sayScalars { options := o } s.registry = (ofMarkup (scalarTable m).lines >>= showLines) := by
  unfold sayScalars
  rw [Generator.typeMap, hm]
  rfl

theorem escapes_sayScalars_iff {m : Php.TypeMap} (hm : Php.TypeMap.ofOptions s.registry o = .ok m) :
    Escapes p (sayScalars { options := o } s.registry) ↔
      ∃ fault, (scalarTable m).lines = .error fault := by
  rw [sayScalars_eq hm]
  exact escapes_ofMarkup

/-- What is said of a run behind the delivery can always be said. -/
theorem exists_afterwards (a : Arguments) (generated : Generated) (p : Progress) :
    ∃ q, runFrom p (do
      (if a.verbose then sayMetadata generated else pure ⟨⟩)
      sayWarnings generated.warnings
      return 0) = (.ok 0, q) := by
  obtain ⟨q, hq⟩ : ∃ q, runFrom p (if a.verbose then sayMetadata generated else pure ⟨⟩) =
      (.ok (), q) := by
    split
    · exact exists_sayMetadata generated p
    · exact ⟨p, rfl⟩
  obtain ⟨r, hr⟩ := exists_sayWarnings generated.warnings q
  exact ⟨r, runFrom_bind_eq_ok.2 ⟨(), q, hq, runFrom_bind_eq_ok.2 ⟨(), r, hr, rfl⟩⟩⟩

/-- A run without code escapes where its fault breaks it off; all others are told. -/
theorem escapes_produce_of_error {fault : Php.FragmentFault}
    (h : Generator.run { options := o } s = .error fault) :
    Escapes p (produce a o s) ↔ fault.isBreak = true := by
  rw [produce_of_error h]
  cases fault.isBreak with
  | true => exact iff_of_true ⟨_, rfl, rfl⟩ rfl
  | false =>
    obtain ⟨q, hq⟩ := exists_sayFailure (failureMessage fault) p
    refine iff_of_false (not_escapes_of_ok (q := q) (b := 1) ?_) Bool.false_ne_true
    exact runFrom_bind_eq_ok.2 ⟨(), p, rfl, runFrom_bind_eq_ok.2 ⟨(), q, hq, rfl⟩⟩

/-- A run with code escapes where the table that is asked for or the delivery does. -/
theorem escapes_produce_of_ok {generated : Generated}
    (h : Generator.run { options := o } s = .ok generated) :
    Escapes p (produce a o s) ↔
      Escapes p (if a.verbose then sayScalars { options := o } s.registry else pure ⟨⟩) ∨
        UntoldDelivery p.world a.output generated.code := by
  have scalars : Quiet (if a.verbose then sayScalars { options := o } s.registry else pure ⟨⟩) :=
    quiet_ite (quiet_sayScalars _ _)
  have after (q : Progress) : Escapes q (do
      deliver a.output generated.code
      (if a.verbose then sayMetadata generated else pure ⟨⟩)
      sayWarnings generated.warnings
      return 0) ↔ UntoldDelivery q.world a.output generated.code := by
    rw [escapes_bind, or_iff_left, escapes_deliver_iff]
    rintro ⟨_, r, -, h⟩
    obtain ⟨_, hq⟩ := exists_afterwards a generated r
    exact not_escapes_of_ok hq h
  rw [produce_of_ok h, escapes_bind]
  simp only [after]
  cases hfirst : runFrom p (if a.verbose then sayScalars { options := o } s.registry
      else pure ⟨⟩) with | mk outcome q
  cases outcome with
  | ok u =>
    have world := (scalars.kept hfirst).1
    simp [world]
  | error fault =>
    have escapes : Escapes p (if a.verbose then sayScalars { options := o } s.registry
        else pure ⟨⟩) := ⟨fault, congrArg Prod.fst hfirst, scalars.untold _ _ _ hfirst⟩
    exact iff_of_true (.inl escapes) (.inl escapes)

theorem escapes_produce_iff (ho : o.Usable) :
    Escapes p (produce a o s) ↔ UntoldRun p.world a o s := by
  have breaks := ho.fails_run_iff s
  obtain ⟨m, hm, -⟩ := ho.typeMap s.registry
  cases hrun : Generator.run { options := o } s with
  | error fault =>
    rw [hrun, fails_error] at breaks
    rw [escapes_produce_of_error hrun, breaks]
    constructor
    · rintro ⟨hreaches, fault, hindent⟩
      exact .indentation hreaches hindent
    · rintro (⟨hreaches, hindent⟩ | ⟨hother, -⟩ | ⟨hother, -⟩)
      · exact ⟨hreaches, _, hindent⟩
      · cases hrun.symm.trans hother
      · cases hrun.symm.trans hother
  | ok generated =>
    rw [hrun] at breaks
    rw [escapes_produce_of_ok hrun]
    constructor
    · rintro (h | h)
      · cases hverbose : a.verbose with
        | false =>
          rw [hverbose] at h
          exact absurd h (not_escapes_of_ok rfl)
        | true =>
          rw [hverbose, if_pos rfl, escapes_sayScalars_iff hm] at h
          obtain ⟨fault, h⟩ := h
          exact .scalars hrun hverbose hm h
      · exact .delivery hrun h
    · rintro (⟨hreaches, hindent⟩ | ⟨-, hverbose, hother, h⟩ | ⟨hother, h⟩)
      · exact absurd (breaks.2 ⟨hreaches, _, hindent⟩) (not_fails_ok generated)
      · rw [hverbose, if_pos rfl]
        exact .inl ((escapes_sayScalars_iff hother).2 ⟨_, h⟩)
      · cases hrun.symm.trans hother
        exact .inr h

/-! ## The whole command -/

/-- What is wrong with a command in a world is not told: it is with the file of options, with the
items of its flags, with the sources of the schema, or with the run. How much of the stack of the
interpreter an SDL text may ask for is left out of account. -/
inductive Untold (w : World) (a : Arguments) : Prop
  | config {name : String} (hname : Arguments.nonEmpty a.config = some name)
      (h : w.UntoldOptions (Path.ofText name) w.room)
  | scalars {base : Options}
      (hbase : Options.load w Options.defaultLayer [] a.config w.room = .ok base)
      (h : Arguments.UntoldItems a.scalars)
  | enumValues {base : Options}
      (hbase : Options.load w Options.defaultLayer [] a.config w.room = .ok base)
      (hscalars : ∀ item ∈ a.scalars, Arguments.IsAssignment item)
      (h : Arguments.UntoldItems a.enumValues)
  | schema {o : Options} (ho : a.options w w.room = .ok o) (h : w.UntoldSchema a.sources)
  | run {o : Options} {s : Schema} (ho : a.options w w.room = .ok o)
      (hs : (Source.run (Source.schema w a.sources a.timeout)).1 = .ok s)
      (h : UntoldRun w a o s)

theorem usable_options {room : Option Nat} (h : a.options w room = .ok o) : o.Usable := by
  obtain ⟨base, hbase, h⟩ := bind_eq_ok.1 h
  exact Arguments.usable_apply (Options.load_checked (mapError_eq_ok.1 hbase)) h

/-- The end of a command, by its options, its schema and its run. -/
theorem escaped_execute_iff :
    (∃ fault, (execute w a).ending = .escaped fault) ↔
      Fails isUntold (a.options w w.room) ∨
        ∃ o, a.options w w.room = .ok o ∧ (Fails LoadFault.isUntold (w.loaded a.sources) ∨
          ∃ s, w.loaded a.sources = .ok s ∧ UntoldRun w a o s) := by
  have loaded := Source.comesTo_schema w a.sources a.timeout {}
  unfold execute
  cases ho : a.options w w.room with
  | error fault =>
    simp only [escapes_conclude_iff, escapes_throw]
    simp
  | ok o =>
    rcases hrun : Source.run (Source.schema w a.sources a.timeout) with ⟨outcome, trace⟩
    have houtcome : w.loaded a.sources = outcome := loaded.symm.trans (congrArg Prod.fst hrun)
    rw [houtcome]
    cases outcome with
    | error fault =>
      simp only [escapes_conclude_iff, escapes_throw]
      simp [isUntold]
    | ok s =>
      simp only [escapes_conclude_iff, escapes_produce_iff (usable_options ho)]
      simp

theorem fails_options_iff :
    Fails isUntold (a.options w w.room) ↔
      (∃ name, Arguments.nonEmpty a.config = some name ∧ w.UntoldOptions (Path.ofText name) w.room) ∨
        ∃ base, Options.load w Options.defaultLayer [] a.config w.room = .ok base ∧
          (Arguments.UntoldItems a.scalars ∨
            (∀ item ∈ a.scalars, Arguments.IsAssignment item) ∧
              Arguments.UntoldItems a.enumValues) := by
  unfold Arguments.options
  rw [fails_bind, fails_mapError]
  simp only [mapError_eq_ok, Arguments.fails_apply_iff]
  exact or_congr_left (Options.fails_load_iff (Options.writeFault?_defaultLayer w.room)
    fun e he => absurd he List.not_mem_nil)

theorem escaped_iff : (∃ fault, (execute w a).ending = .escaped fault) ↔ Untold w a := by
  have loaded : (Source.run (Source.schema w a.sources a.timeout)).1 = w.loaded a.sources :=
    Source.comesTo_schema w a.sources a.timeout {}
  rw [escaped_execute_iff, fails_options_iff, World.fails_loaded_iff]
  constructor
  · rintro ((⟨name, hname, h⟩ | ⟨base, hbase, h | ⟨hscalars, h⟩⟩) | ⟨o, ho, h | ⟨s, hs, h⟩⟩)
    · exact .config hname h
    · exact .scalars hbase h
    · exact .enumValues hbase hscalars h
    · exact .schema ho h
    · exact .run ho (loaded.trans hs) h
  · rintro (⟨hname, h⟩ | ⟨hbase, h⟩ | ⟨hbase, hscalars, h⟩ | ⟨ho, h⟩ | ⟨ho, hs, h⟩)
    · exact .inl (.inl ⟨_, hname, h⟩)
    · exact .inl (.inr ⟨_, hbase, .inl h⟩)
    · exact .inl (.inr ⟨_, hbase, .inr ⟨hscalars, h⟩⟩)
    · exact .inr ⟨_, ho, .inl h⟩
    · exact .inr ⟨_, ho, .inr ⟨_, loaded.symm.trans hs, h⟩⟩

end SdlPhp.Command
