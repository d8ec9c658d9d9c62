import SdlPhp.Proofs.Delivery.Untold
import SdlPhp.Proofs.Delivery.Words

/-!
# Verbose runs

A verbose run says more than a plain one: it shows a table of the types of the scalars before the
code is delivered, and one that sums the run up behind that. Steps that agree but for what they say
leave the same behind (`Agree`), and so do the two runs, unless the table of the scalars cannot be
shown. Main statement: `sameEffects_iff`.
-/

namespace SdlPhp

open Attempt

namespace Command

variable {α β : Type} {w : World} {words : List String} {a : Arguments} {o : Options} {s : Schema}
  {p q : Progress} {requests : List (String × Given Int)}

/-! ## Steps that agree -/

/-- The progress is the same but for what has been said. -/
structure Alike (p q : Progress) : Prop where
  world : p.world = q.world
  stdout : p.stdout = q.stdout

/-- The steps have the same outcome and leave the same behind, but for what they say. -/
def Agree (x y : Running α) : Prop :=
  ∀ p q, Alike p q → (runFrom p x).1 = (runFrom q y).1 ∧ Alike (runFrom p x).2 (runFrom q y).2

theorem agree_pure (v : α) : Agree (pure v) (pure v) := fun _ _ h => ⟨rfl, h⟩

theorem agree_throw (fault : CommandFault) : Agree (throw fault : Running α) (throw fault) :=
  fun _ _ h => ⟨rfl, h⟩

theorem agree_showLines (ls ks : List String) : Agree (showLines ls) (showLines ks) :=
  fun _ _ h => ⟨rfl, h.world, h.stdout⟩

theorem Agree.exists_runs {x y : Running α} (h : Agree x y) (halike : Alike p q) :
    ∃ outcome p' q', runFrom p x = (outcome, p') ∧ runFrom q y = (outcome, q') ∧ Alike p' q' := by
  obtain ⟨houtcome, hlater⟩ := h p q halike
  refine ⟨(runFrom p x).1, (runFrom p x).2, (runFrom q y).2, rfl, ?_, hlater⟩
  rw [houtcome]

theorem Agree.bind {x y : Running α} {f g : α → Running β} (hx : Agree x y)
    (hf : ∀ v, Agree (f v) (g v)) : Agree (x >>= f) (y >>= g) := by
  intro p q halike
  obtain ⟨outcome, p', q', hp, hq, hlater⟩ := hx.exists_runs halike
  rw [runFrom_bind, runFrom_bind, hp, hq]
  cases outcome with
  | error fault => exact ⟨rfl, hlater⟩
  | ok v => exact hf v p' q' hlater

theorem agree_tryCatch {x y : Running α} {f g : CommandFault → Running α} (hx : Agree x y)
    (hf : ∀ fault, Agree (f fault) (g fault)) : Agree (tryCatch x f) (tryCatch y g) := by
  intro p q halike
  obtain ⟨outcome, p', q', hp, hq, hlater⟩ := hx.exists_runs halike
  rw [runFrom_tryCatch, runFrom_tryCatch, hp, hq]
  cases outcome with
  | error fault => exact hf fault p' q' hlater
  | ok v => exact ⟨rfl, hlater⟩

theorem agree_ofMarkup (x : Except Markup.Fault α) : Agree (ofMarkup x) (ofMarkup x) := by
  cases x with
  | ok v => exact agree_pure v
  | error fault => exact agree_throw _

theorem agree_say (text : String) : Agree (say text) (say text) :=
  (agree_ofMarkup _).bind fun ls => agree_showLines ls ls

theorem agree_foldlM {γ : Type} {f : PUnit → γ → Running PUnit} (hf : ∀ u c, Agree (f u c) (f u c))
    (cs : List γ) : Agree (cs.foldlM f ⟨⟩) (cs.foldlM f ⟨⟩) := by
  induction cs with
  | nil => exact agree_pure _
  | cons c cs ih =>
    rw [List.foldlM_cons]
    exact (hf ⟨⟩ c).bind fun _ => ih

theorem agree_sayWarnings (warnings : List String) :
    Agree (sayWarnings warnings) (sayWarnings warnings) := by
  rw [sayWarnings_eq]
  refine Agree.bind ?_ fun _ => agree_foldlM (fun _ w => agree_say _) warnings
  split
  · exact agree_pure _
  · exact agree_say _

theorem agree_tell (fault : CommandFault) : Agree (tell fault) (tell fault) :=
  (agree_say _).bind fun _ => agree_pure 1

theorem agree_deliver (output : Option String) (code : String) :
    Agree (deliver output code) (deliver output code) := by
  intro p q h
  cases houtput : Arguments.nonEmpty output with
  | none =>
    rw [runFrom_deliver_of_none houtput, runFrom_deliver_of_none houtput, h.world]
    split
    · exact ⟨rfl, rfl, congrArg (· ++ code) h.stdout⟩
    · exact ⟨rfl, h.world, h.stdout⟩
  | some file =>
    rw [runFrom_deliver_of_some houtput, runFrom_deliver_of_some houtput, h.world]
    rcases writeCode q.world (Path.ofText file) code with ⟨written, _ | fault⟩
    · exact agree_say _ _ _ ⟨rfl, h.stdout⟩
    · exact ⟨rfl, rfl, h.stdout⟩

/-- A quiet step that gets through counts as none. -/
theorem Quiet.agree {x : Running PUnit} (hx : Quiet x)
    (h : ∀ p, ∃ q, runFrom p x = (.ok ⟨⟩, q)) : Agree (pure ⟨⟩) x := by
  intro p q halike
  obtain ⟨r, hr⟩ := h q
  obtain ⟨world, stdout⟩ := hx.kept hr
  rw [hr]
  exact ⟨rfl, halike.world.trans world.symm, halike.stdout.trans stdout.symm⟩

/-! ## Runs that have the same effects -/

/-- The runs end alike and leave the same behind, but for what they say. -/
structure SameEffects (x y : Outcome) : Prop where
  ending : x.ending = y.ending
  world : x.world = y.world
  stdout : x.stdout = y.stdout
  requests : x.requests = y.requests

theorem sameEffects_conclude {x y : Running Nat} (h : Agree x y) (p : Progress)
    (requests : List (String × Given Int)) :
    SameEffects (conclude p x requests) (conclude p y requests) := by
  have handled (fault : CommandFault) : Agree (if isUntold fault then throw fault else tell fault)
      (if isUntold fault then throw fault else tell fault) := by
    split
    · exact agree_throw fault
    · exact agree_tell fault
  obtain ⟨outcome, p', q', hp, hq, hlater⟩ := (agree_tryCatch h handled).exists_runs ⟨rfl, rfl⟩
  rw [conclude_eq, conclude_eq, hp, hq]
  cases outcome with
  | error fault => exact ⟨rfl, hlater.world, hlater.stdout, rfl⟩
  | ok code => exact ⟨rfl, hlater.world, hlater.stdout, rfl⟩

/-! ## Runs over a schema -/

section Produce

variable {generated : Generated} {m : Php.TypeMap}

/-- A run without code does not ask for the flag. -/
theorem produce_talking_of_error {fault : Php.FragmentFault}
    (h : Generator.run { options := o } s = .error fault) :
    produce a.talking o s = produce a o s := by
  rw [produce_of_error h, produce_of_error h]

theorem produce_talking_of_ok (h : Generator.run { options := o } s = .ok generated) :
    produce a.talking o s = (do
      sayScalars { options := o } s.registry
      deliver a.output generated.code
      sayMetadata generated
      sayWarnings generated.warnings
      return 0) :=
  produce_of_ok h

/-- Where the table of the scalars can be shown, a verbose run does what a plain one does. -/
theorem agree_produce_talking {ls : List String} (hplain : a.verbose = false)
    (h : Generator.run { options := o } s = .ok generated)
    (hm : Php.TypeMap.ofOptions s.registry o = .ok m) (hls : (scalarTable m).lines = .ok ls) :
    Agree (produce a o s) (produce a.talking o s) := by
  have scalars : Agree (pure ⟨⟩) (sayScalars { options := o } s.registry) := by
    apply (quiet_sayScalars _ _).agree
    intro p
    rw [sayScalars_eq hm, hls]
    exact ⟨_, rfl⟩
  have metadata : Agree (pure ⟨⟩) (sayMetadata generated) :=
    (quiet_sayMetadata generated).agree (exists_sayMetadata generated)
  rw [produce_of_ok h, produce_talking_of_ok h, hplain]
  exact scalars.bind fun _ => (agree_deliver _ _).bind fun _ => metadata.bind fun _ =>
    (agree_sayWarnings _).bind fun _ => agree_pure 0

/-- Where it cannot be shown, the verbose run ends with that, and nothing is delivered. -/
theorem conclude_produce_talking {fault : Markup.Fault}
    (h : Generator.run { options := o } s = .ok generated)
    (hm : Php.TypeMap.ofOptions s.registry o = .ok m)
    (hlines : (scalarTable m).lines = .error fault) (p : Progress)
    (requests : List (String × Given Int)) :
    conclude p (produce a.talking o s) requests = finish p (.escaped (.markup fault)) requests := by
  have hfails : runFrom p (produce a.talking o s) = (.error (.markup fault), p) := by
    rw [produce_talking_of_ok h, sayScalars_eq hm, hlines]
    rfl
  exact conclude_of_untold hfails rfl requests

end Produce

/-! ## Tables of scalars -/

theorem mem_rows_scalarTable {m : Php.TypeMap} {row : String × String} :
    row ∈ (scalarTable m).rows ↔
      row = ("GraphQL", "PHP") ∨ row ∈ m.scalarTable.mapValues Setting.text := by
  simp [scalarTable]

/-- Names and types without brackets and backslashes can be shown. -/
theorem exists_lines_scalarTable {m : Php.TypeMap}
    (h : ∀ e ∈ m.scalarTable.mapValues Setting.text,
      Markup.hasNoMarks e.1.toList = true ∧ Markup.hasNoMarks e.2.toList = true) :
    ∃ ls, (scalarTable m).lines = .ok ls := by
  apply Table.exists_lines
  intro row hrow
  rcases mem_rows_scalarTable.1 hrow with rfl | hrow
  · decide
  · exact h row hrow

/-- A table with a type whose markup is broken cannot be shown. -/
theorem exists_fault_scalarTable {m : Php.TypeMap} {e : String × String} {fault : Markup.Fault}
    (he : e ∈ m.scalarTable.mapValues Setting.text) (h : Markup.shown e.2 = .error fault) :
    ∃ other, (scalarTable m).lines = .error other := by
  cases hlines : (scalarTable m).lines with
  | error other => exact ⟨other, rfl⟩
  | ok ls =>
    obtain ⟨firsts, -, hrest⟩ := bind_eq_ok.1 hlines
    obtain ⟨seconds, hseconds, -⟩ := bind_eq_ok.1 hrest
    obtain ⟨s, -, hs⟩ := mapM_eq_ok_mem hseconds (mem_rows_scalarTable.2 (.inr he))
    cases h.symm.trans hs

/-- The types of the scalars, where a run of the command has code and would show them. -/
def reachedTypes (w : World) (a : Arguments) : Option Php.TypeMap := do
  let o ← (a.options w w.room).toOption
  let s ← (Source.run (Source.schema w a.sources a.timeout)).1.toOption
  let _ ← (Generator.run { options := o } s).toOption
  (Php.TypeMap.ofOptions s.registry o).toOption

theorem reachedTypes_eq (ho : a.options w w.room = .ok o)
    (hs : (Source.run (Source.schema w a.sources a.timeout)).1 = .ok s) :
    reachedTypes w a = (Generator.run { options := o } s).toOption.bind fun _ =>
      (Php.TypeMap.ofOptions s.registry o).toOption := by
  rw [reachedTypes, ho, hs]
  rfl

/-! ## Whole commands -/

/-- The outcome is that of a run that ends with broken markup and leaves nothing behind. -/
structure BreaksOff (w : World) (fault : Markup.Fault) (outcome : Outcome) : Prop where
  ending : outcome.ending = .escaped (.markup fault)
  world : outcome.world = w
  stdout : outcome.stdout = ""

theorem SameEffects.refl (x : Outcome) : SameEffects x x := ⟨rfl, rfl, rfl, rfl⟩

theorem requests_conclude (p : Progress) (x : Running Nat) (requests : List (String × Given Int)) :
    (conclude p x requests).requests = requests := by
  rw [conclude_eq]
  split <;> rfl

/-- A run over a schema, plain and verbose. -/
theorem sameEffects_produce_iff (hplain : a.verbose = false) (ho : a.options w w.room = .ok o)
    (hs : (Source.run (Source.schema w a.sources a.timeout)).1 = .ok s)
    (requests : List (String × Given Int)) :
    SameEffects (conclude { world := w } (produce a o s) requests)
        (conclude { world := w } (produce a.talking o s) requests) ↔
      ∀ m fault, reachedTypes w a = some m → (scalarTable m).lines = .error fault →
        BreaksOff w fault (conclude { world := w } (produce a o s) requests) := by
  rw [reachedTypes_eq ho hs]
  cases hrun : Generator.run { options := o } s with
  | error runFault =>
    rw [produce_talking_of_error hrun]
    apply iff_of_true (.refl _)
    rintro m fault ⟨⟩
  | ok generated =>
    obtain ⟨m, hm, -⟩ := (usable_options ho).typeMap s.registry
    have htypes : ((Except.ok generated : Except Php.FragmentFault Generated).toOption.bind fun _ =>
        (Php.TypeMap.ofOptions s.registry o).toOption) = some m := by
      rw [hm]
      rfl
    rw [htypes]
    cases hlines : (scalarTable m).lines with
    | ok ls =>
      apply iff_of_true (sameEffects_conclude (agree_produce_talking hplain hrun hm hlines) _ _)
      rintro _ fault ⟨⟩ hfault
      cases hlines.symm.trans hfault
    | error fault =>
      rw [conclude_produce_talking hrun hm hlines]
      constructor
      · rintro ⟨ending, world, stdout, -⟩ _ other ⟨⟩ hother
        cases hlines.symm.trans hother
        exact ⟨ending, world, stdout⟩
      · intro h
        obtain ⟨ending, world, stdout⟩ := h m fault rfl hlines
        exact ⟨ending, world, stdout, requests_conclude _ _ _⟩

theorem sameEffects_execute_iff (hplain : a.verbose = false) :
    SameEffects (execute w a) (execute w a.talking) ↔
      ∀ m fault, reachedTypes w a = some m → (scalarTable m).lines = .error fault →
        BreaksOff w fault (execute w a) := by
  cases ho : a.options w w.room with
  | error optionsFault =>
    have hsame : execute w a.talking = execute w a := by
      unfold execute
      rw [a.options_talking w w.room, ho]
    have hnone : reachedTypes w a = none := by
      rw [reachedTypes, ho]
      rfl
    rw [hsame, hnone]
    apply iff_of_true (.refl _)
    rintro m fault ⟨⟩
  | ok o =>
    rcases hsource : Source.run (Source.schema w a.sources a.timeout) with ⟨loaded, trace⟩
    have hsource' : Source.run (Source.schema w a.talking.sources a.talking.timeout) =
        (loaded, trace) := hsource
    have hloaded : (Source.run (Source.schema w a.sources a.timeout)).1 = loaded :=
      congrArg Prod.fst hsource
    unfold execute
    rw [a.options_talking w w.room, ho]
    simp only [hsource, hsource']
    cases loaded with
    | error loadFault =>
      have hnone : reachedTypes w a = none := by
        rw [reachedTypes, ho, hloaded]
        rfl
      rw [hnone]
      apply iff_of_true (.refl _)
      rintro m fault ⟨⟩
    | ok s => exact sameEffects_produce_iff hplain ho hloaded trace.requests

theorem run_of_read (w : World) (hread : Arguments.read words = .ok a) :
    run w words = execute w a := by
  unfold run
  rw [hread]

theorem run_verbose_of_read (w : World) (hread : Arguments.read words = .ok a) :
    run w ("--verbose" :: words) = execute w a.talking := by
  have hverbose : Arguments.read ("--verbose" :: words) = .ok a.talking := by
    rw [Arguments.read_verbose, hread]
    rfl
  exact run_of_read w hverbose

/-- Where the arguments cannot be read, the flag in front of them changes nothing. -/
theorem run_verbose_of_error {early : EarlyEnd} (w : World)
    (hread : Arguments.read words = .error early) : run w ("--verbose" :: words) = run w words := by
  unfold run
  rw [Arguments.read_verbose, hread]
  rfl

/-- A command line without the flag and the one with it in front have the same effects, unless the
table of the scalars is reached and cannot be shown: then the verbose run ends with that and
delivers nothing. -/
theorem sameEffects_iff (hplain : ∀ a, Arguments.read words = .ok a → a.verbose = false) :
    SameEffects (run w words) (run w ("--verbose" :: words)) ↔
      ∀ a m fault, Arguments.read words = .ok a → reachedTypes w a = some m →
        (scalarTable m).lines = .error fault → BreaksOff w fault (run w words) := by
  cases hread : Arguments.read words with
  | error early =>
    rw [run_verbose_of_error w hread]
    apply iff_of_true (.refl _)
    rintro a m fault ⟨⟩
  | ok a =>
    rw [run_of_read w hread, run_verbose_of_read w hread, sameEffects_execute_iff (hplain a hread)]
    constructor
    · rintro h _ m fault ⟨⟩
      exact h m fault
    · exact fun h m fault => h a m fault rfl

/-- A schema with a scalar, for which a flag names a type. -/
theorem sameEffects_iff_scalar :
    let w : World := { files := [(["s.graphql"], "scalar Date input A { d: Date }".toUTF8)] }
    let words := ["s.graphql", "--scalar", "Date=Day"]
    SameEffects (run w words) (run w ("--verbose" :: words)) := by
  intro w words
  let a : Arguments := { sources := ["s.graphql"], scalars := [.value "Date=Day"] }
  have hread : Arguments.read words = .ok a := by decide +kernel
  have htypes : (reachedTypes w a).map (·.scalarTable.mapValues Setting.text) =
      some [("Date", "Day"), ("Boolean", "bool"), ("String", "string")] := by
    decide +kernel
  -- the world is not to be computed with any more
  clear_value w
  obtain ⟨m, hm, hrows⟩ := Option.map_eq_some_iff.1 htypes
  obtain ⟨ls, hls⟩ := exists_lines_scalarTable (m := m) (by
    rw [hrows]
    decide)
  have hplain : ∀ b, Arguments.read words = .ok b → b.verbose = false := by
    intro b hb
    cases hread.symm.trans hb
    rfl
  refine (sameEffects_iff hplain).2 fun b m' fault hb hm' hlines => ?_
  cases hread.symm.trans hb
  cases hm.symm.trans hm'
  cases hlines.symm.trans hls

/-- The type of a scalar that closes a style which nothing opens. -/
theorem not_sameEffects_broken_type :
    let w : World := { files := [(["s.graphql"], "scalar Date input A { d: Date }".toUTF8)] }
    let words := ["s.graphql", "--scalar", "Date=[/b]"]
    (∃ a, Arguments.read words = .ok a ∧ a.verbose = false) ∧
      ¬ SameEffects (run w words) (run w ("--verbose" :: words)) := by
  intro w words
  let a : Arguments := { sources := ["s.graphql"], scalars := [.value "Date=[/b]"] }
  have hread : Arguments.read words = .ok a := by decide +kernel
  have htypes : (reachedTypes w a).map (·.scalarTable.mapValues Setting.text) =
      some [("Date", "[/b]"), ("Boolean", "bool"), ("String", "string")] := by
    decide +kernel
  have hexit : (run w words).ending.code? = some 0 := by decide +kernel
  have hbroken : ∃ fault, Markup.shown "[/b]" = .error fault := by
    have hnone : (Markup.shown "[/b]").toOption.isSome = false := by decide +kernel
    cases h : Markup.shown "[/b]" with
    | error fault => exact ⟨fault, rfl⟩
    | ok shown =>
      rw [h] at hnone
      cases hnone
  clear_value w
  obtain ⟨m, hm, hrows⟩ := Option.map_eq_some_iff.1 htypes
  obtain ⟨fault, hfault⟩ := hbroken
  have hrow : ("Date", "[/b]") ∈ m.scalarTable.mapValues Setting.text := by
    rw [hrows]
    exact List.mem_cons_self
  obtain ⟨other, hlines⟩ := exists_fault_scalarTable hrow hfault
  refine ⟨⟨a, hread, rfl⟩, fun h => ?_⟩
  rw [run_of_read w hread, run_verbose_of_read w hread, sameEffects_execute_iff rfl] at h
  rw [run_of_read w hread, (h m other hm hlines).ending] at hexit
  cases hexit

end Command

end SdlPhp
