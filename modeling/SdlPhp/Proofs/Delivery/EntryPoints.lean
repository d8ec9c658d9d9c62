import SdlPhp.Generation.Quick
import SdlPhp.Proofs.Delivery.Delivered
import SdlPhp.Proofs.Delivery.Markup
import SdlPhp.Proofs.Generation.Composition
import SdlPhp.Proofs.Options.File
import SdlPhp.Proofs.Schema.Source

/-!
# Entry points

A schema and options get to a run in three ways: as files that a command line names, as a text and a
layer of overrides, and as those for nothing but the code. The three agree, although the command
looks at the options before the schema and `generate` the other way round: the code is the same, and
where there is none, the command tells why and exits with 1. Main statement: `run_agrees_iff`.
-/

namespace SdlPhp

open Attempt

/-! ## The words of the command -/

namespace Arguments

theorem classify_of_plain {word : String} (h : word.toList.head? ≠ some '-') :
    classify word = .ok (.plain word) := by
  unfold classify
  split
  · rename_i heq
    rw [heq] at h
    exact absurd rfl h
  · rfl

/-- A source and the name of a file with options. -/
theorem read_config {source config : String} (hsource : source.toList.head? ≠ some '-')
    (hconfig : config.toList.head? ≠ some '-') :
    read [source, "--config", config] = .ok { sources := [source], config := some config } := by
  have hs : source ≠ "--" := by
    rintro rfl
    exact hsource rfl
  have hc : config ≠ "--" := by
    rintro rfl
    exact hconfig rfl
  have flag : classify "--config" = .ok (.flag .config false none) := by decide
  have classified : classifyAll [source, "--config", config] =
      .ok [.plain source, .flag .config false none, .plain config] := by
    simp only [classifyAll, hs, hc, if_false, classify_of_plain hsource, classify_of_plain hconfig,
      flag]
    rfl
  have value : readWords { arguments := { sources := [source] } }
        [.flag .config false none, .plain config] =
      .ok { arguments := { sources := [source], config := some config } } := by
    simp [readWords, bind, Except.bind, Flag.takesValue, setPlain, set, givenBy, hc, pure,
      Except.pure, Given.value?]
  have words : readWords {} [.plain source, .flag .config false none, .plain config] =
      .ok { arguments := { sources := [source], config := some config } } := by
    rw [readWords, ← value]
    · rfl
    all_goals simp
  rw [read, classified]
  simp only [Except.mapError, bind, Except.bind, words]
  rfl

/-! ## The options of the command -/

theorem map_update_nil {α : Type} (s : Setting (Entries α)) : s.map (·.update []) = s := by
  cases s <;> rfl

/-- Without flags the options of the file stay as they are. -/
theorem apply_config (sources : List String) (config : Option String) (base : Options) :
    apply { sources := sources, config := config } base = .ok base := by
  have imports : ({ sources := sources, config := config } : Arguments).allImports base.imports =
      base.imports := by
    cases h : base.imports <;> simp [allImports]
  have scalars := map_update_nil base.scalars
  have kept (s : Setting (Entries (Entries String))) (h : base.enumValues = s) :
      { base with enumValues := s } = base := by rw [← h]
  simp only [apply, imports, assignments, List.foldlM_nil, pure_bind, scalars]
  cases henum : base.enumValues with
  | value t => exact congrArg Except.ok (kept (.value t) henum)
  | other v => exact congrArg Except.ok (kept (.other v) henum)

end Arguments

theorem Arguments.options_config {w : World} {name : String} {fields : Layer}
    {room : Option Nat} (h : w.HoldsOptions name fields room) (sources : List String) :
    options { sources := sources, config := some name } w room =
      (Options.ofLayers [Options.defaultLayer, fields]).mapError (.options ∘ .option) := by
  -- the layer of overrides is empty here
  have merged : Options.ofLayers [Options.defaultLayer, fields, []] room =
      Options.ofLayers [Options.defaultLayer, fields] room := rfl
  simp only [options, Options.load_of_holdsOptions h, merged, Options.ofLayers_of_holdsOptions h]
  cases Options.ofLayers [Options.defaultLayer, fields] with
  | error fault => rfl
  | ok base => exact apply_config sources (some name) base

/-! ## Messages of the command -/

namespace Command

theorem exists_say {text : String} (h : ∃ ls, Markup.lines text = .ok ls) (p : Progress) :
    ∃ q, runFrom p (say text) = (.ok (), q) := by
  obtain ⟨ls, hls⟩ := h
  rw [say, hls]
  exact ⟨_, rfl⟩

/-- An error can be told whatever its message is. -/
theorem exists_lines_tell (message : String) :
    ∃ ls, Markup.lines ("[red]✗ Error:[/red] " ++ Markup.escape message) = .ok ls := by
  have front : "[red]✗ Error:[/red] ".toList = [] ++ ('[' :: "red".toList ++ ']' ::
      ("✗ Error:".toList ++ ('[' :: '/' :: "red".toList ++ ']' :: " ".toList))) := by
    decide
  exact Markup.lines_label Markup.isColor_red (by decide) (by decide) (by decide) message front

theorem exists_tell (fault : CommandFault) (p : Progress) :
    ∃ q, runFrom p (tell fault) = (.ok 1, q) := by
  obtain ⟨q, hq⟩ := exists_say (exists_lines_tell fault.message) p
  exact ⟨q, runFrom_bind_eq_ok.2 ⟨(), q, hq, rfl⟩⟩

theorem exists_sayFailure (message : String) (p : Progress) :
    ∃ q, runFrom p (say ("[red]✗ " ++ Markup.escape message ++ "[/red]")) = (.ok (), q) := by
  have front : "[red]✗ ".toList = '[' :: "red".toList ++ ']' :: "✗ ".toList := by decide
  have back : "[/red]".toList = '[' :: '/' :: "red".toList ++ [']'] := by decide
  exact exists_say (Markup.lines_around Markup.isColor_red (by decide) message front
    back) p

theorem exists_sayWarning (warning : String) (p : Progress) :
    ∃ q, runFrom p (say ("  [yellow]•[/yellow] " ++ Markup.escape warning)) = (.ok (), q) := by
  have front : "  [yellow]•[/yellow] ".toList = "  ".toList ++ ('[' :: "yellow".toList ++ ']' ::
      ("•".toList ++ ('[' :: '/' :: "yellow".toList ++ ']' :: " ".toList))) := by
    decide
  exact exists_say (Markup.lines_label Markup.isColor_yellow (by decide)
    (by decide) (by decide) warning front) p

theorem exists_sayWarnings (warnings : List String) (p : Progress) :
    ∃ q, runFrom p (sayWarnings warnings) = (.ok (), q) := by
  have each : ∀ (ws : List String) (p : Progress), ∃ q, runFrom p
      (ws.foldlM (fun _ w => say ("  [yellow]•[/yellow] " ++ Markup.escape w)) ⟨⟩) =
        (.ok (), q) := by
    intro ws
    induction ws with
    | nil => exact fun p => ⟨p, rfl⟩
    | cons w ws ih =>
      intro p
      obtain ⟨q, hq⟩ := exists_sayWarning w p
      obtain ⟨r, hr⟩ := ih q
      exact ⟨r, runFrom_bind_eq_ok.2 ⟨(), q, hq, hr⟩⟩
  have header (p : Progress) : ∃ q, runFrom p (if warnings.isEmpty then pure ⟨⟩
      else say "[yellow]⚠️  Warnings:[/yellow]") = (.ok (), q) := by
    have front : "[yellow]⚠️  Warnings:[/yellow]".toList = [] ++ ('[' :: "yellow".toList ++ ']' ::
        ("⚠️  Warnings:".toList ++ ('[' :: '/' :: "yellow".toList ++ ']' :: []))) := by
      decide
    have empty : Markup.escape "" = "" := by
      rw [Markup.escape, String.toList_empty, Markup.parts_nil]
      rfl
    have shown := Markup.lines_label Markup.isColor_yellow (by decide) (by decide)
      (by decide) "" front
    rw [empty, String.append_empty] at shown
    split
    · exact ⟨p, rfl⟩
    · exact exists_say shown p
  obtain ⟨q, hq⟩ := header p
  obtain ⟨r, hr⟩ := each warnings q
  exact ⟨r, by rw [sayWarnings_eq]; exact runFrom_bind_eq_ok.2 ⟨(), q, hq, hr⟩⟩

/-! ## The steps of the command -/

variable {w : World} {o : Options} {s : Schema} {p : Progress}

/-- A fault that is told ends the command with 1. -/
theorem conclude_of_told {x : Running Nat} {fault : CommandFault}
    (h : runFrom p x = (.error fault, p)) (told : isUntold fault = false)
    (requests : List (String × Given Int)) :
    (conclude p x requests).ending = .exited 1 ∧ (conclude p x requests).stdout = p.stdout := by
  obtain ⟨q, hq⟩ := exists_tell fault p
  have stdout := ((quiet_tell fault).kept hq).2
  rw [conclude_eq, runFrom_tryCatch, h]
  simp only [told, Bool.false_eq_true, if_false, hq]
  exact ⟨rfl, stdout⟩

theorem conclude_of_ok {q : Progress} {x : Running Nat} {code : Nat}
    (h : runFrom p x = (.ok code, q)) (requests : List (String × Given Int)) :
    (conclude p x requests).ending = .exited code ∧
      (conclude p x requests).stdout = q.stdout := by
  rw [conclude_eq, runFrom_tryCatch, h]
  exact ⟨rfl, rfl⟩

section Plain

variable (sources : List String) (config : Option String) {generated : Generated}
  (h : Generator.run { options := o } s = .ok generated)
include h

/-- Without flags a successful run brings the code to the output, if that takes it, and tells the
warnings. -/
theorem exists_produce_of_ok (takes : p.world.outputTakes generated.code = true) :
    ∃ q, runFrom p (produce { sources := sources, config := config } o s) = (.ok 0, q) ∧
      q.stdout = p.stdout ++ generated.code := by
  obtain ⟨q, hq⟩ := exists_sayWarnings generated.warnings
    { p with stdout := p.stdout ++ generated.code }
  refine ⟨q, ?_, ((quiet_sayWarnings _).kept hq).2⟩
  rw [produce_of_ok h]
  simp only [Bool.false_eq_true, if_false, pure_bind]
  refine runFrom_bind_eq_ok.2 ⟨(), _, (runFrom_deliver_of_none rfl p).trans (if_pos takes), ?_⟩
  exact runFrom_bind_eq_ok.2 ⟨(), q, hq, rfl⟩

/-- An output that does not take the code breaks the run off. -/
theorem runFrom_produce_of_refused (refused : p.world.outputTakes generated.code = false) :
    runFrom p (produce { sources := sources, config := config } o s) =
      (.error .unencodable, p) := by
  rw [produce_of_ok h]
  simp only [Bool.false_eq_true, if_false, pure_bind]
  refine runFrom_bind_eq_error.2 (.inl ((runFrom_deliver_of_none rfl p).trans (if_neg ?_)))
  rw [refused]
  exact Bool.false_ne_true

end Plain

/-- A failed run is told. -/
theorem exists_produce_of_error {a : Arguments} {fault : Php.FragmentFault}
    (fails : fault.isBreak = false) (h : Generator.run { options := o } s = .error fault)
    (p : Progress) : ∃ q, runFrom p (produce a o s) = (.ok 1, q) ∧ q.stdout = p.stdout := by
  obtain ⟨q, hq⟩ := exists_sayFailure (failureMessage fault) p
  refine ⟨q, ?_, ((quiet_say _).kept hq).2⟩
  rw [produce_of_error h, fails]
  simp only [Bool.false_eq_true, if_false, pure_bind]
  exact runFrom_bind_eq_ok.2 ⟨(), q, hq, rfl⟩

end Command

/-! ## Agreement -/

/-- The fault breaks off a run without a message about it. -/
def InputFault.isUntold : InputFault → Bool
  | schema fault => fault.isUntold
  | option fault => fault.isUntold

/-- What `generate` gives for the text of a schema and options is what a run of the command leaves
behind and, if no option has the key of the text, what `quickCode` gives. -/
structure Agrees (sdl : String) (fields : Layer) (outcome : Outcome) : Prop where
  successful : ∀ r, (generate sdl fields).map RunResult.ofRun = .ok (.ok r) → r.success = true →
    outcome.ending = .exited 0 ∧ outcome.stdout = r.code ∧
      (Entries.has fields "sdl" = false → quickCode sdl fields = .ok r.code)
  failed : ∀ r, (generate sdl fields).map RunResult.ofRun = .ok (.ok r) → r.success = false →
    outcome.ending = .exited 1 ∧ outcome.stdout = "" ∧
      (Entries.has fields "sdl" = false → ∃ fault, quickCode sdl fields = .error (.generation fault) ∧
        r.errorMessage = some (QuickFault.generation fault).message)
  refused : ∀ fault, generate sdl fields = .error fault → fault.isUntold = false →
    outcome.ending = .exited 1 ∧ outcome.stdout = "" ∧
      (Entries.has fields "sdl" = false → quickCode sdl fields = .error (.input fault))

theorem quickCode_eq {sdl : String} {fields : Layer} (h : Entries.has fields "sdl" = false) :
    quickCode sdl fields =
      match generate sdl fields with
      | .ok (.ok generated) => .ok generated.code
      | .ok (.error fault) => .error (.generation fault)
      | .error fault => .error (.input fault) := by
  rw [quickCode, h]
  rcases generate sdl fields with fault | fault | generated <;> rfl

section Agrees

variable {sdl : String} {fields : Layer} {outcome : Outcome}

theorem agrees_of_refused {fault : InputFault} (h : generate sdl fields = .error fault)
    (told : fault.isUntold = false → outcome.ending = .exited 1 ∧ outcome.stdout = "") :
    Agrees sdl fields outcome where
  successful := fun r hr => by
    rw [h] at hr
    cases hr
  failed := fun r hr => by
    rw [h] at hr
    cases hr
  refused := fun other hother hfault => by
    rw [h] at hother
    cases hother
    obtain ⟨ending, stdout⟩ := told hfault
    exact ⟨ending, stdout, fun hkey => by rw [quickCode_eq hkey, h]⟩

theorem agrees_of_failed {fault : Php.FragmentFault} (h : generate sdl fields = .ok (.error fault))
    (told : fault.isBreak = false → outcome.ending = .exited 1 ∧ outcome.stdout = "") :
    Agrees sdl fields outcome where
  successful := fun r hr success => by
    rw [h] at hr
    cases fault <;> cases hr
    cases success
  failed := fun r hr _ => by
    rw [h] at hr
    cases fault <;> cases hr
    obtain ⟨ending, stdout⟩ := told rfl
    exact ⟨ending, stdout, fun hkey => ⟨_, by rw [quickCode_eq hkey, h], rfl⟩⟩
  refused := fun other hother => by
    rw [h] at hother
    cases hother

theorem agrees_of_successful {generated : Generated}
    (h : generate sdl fields = .ok (.ok generated)) (ending : outcome.ending = .exited 0)
    (stdout : outcome.stdout = generated.code) : Agrees sdl fields outcome where
  successful := fun r hr _ => by
    rw [h] at hr
    cases hr
    exact ⟨ending, stdout, fun hkey => by rw [quickCode_eq hkey, h]; rfl⟩
  failed := fun r hr success => by
    rw [h] at hr
    cases hr
    cases success
  refused := fun other hother => by
    rw [h] at hother
    cases hother

end Agrees

/-- A file with the text of a schema. -/
structure World.HoldsSchema (w : World) (name sdl : String) : Prop where
  notUrl : Url.isUrl name = .ok false
  read : ∃ bytes, w.read (Path.ofText name) = .ok bytes ∧ Text.decode? bytes = some sdl

namespace Command

variable {w : World} {schemaName optionsName sdl : String} {fields : Layer}

section Files

variable (hs : schemaName.toList.head? ≠ some '-') (ho : optionsName.toList.head? ≠ some '-')
include hs ho

/-- A file of options that is nested too deeply breaks the command off, whatever else is there. -/
theorem escaped_of_tooNested (hjson : (Path.ofText optionsName).extension = ".json")
    (h : w.TooNested optionsName w.room) :
    ∃ source kind, (run w [schemaName, "--config", optionsName]).ending =
      .escaped (.options (.invalidJson (Path.ofText optionsName) source (.tooDeep kind))) := by
  obtain ⟨source, kind, hload⟩ := h.load hjson Options.defaultLayer []
  refine ⟨source, kind, ?_⟩
  have hoptions : Arguments.options { sources := [schemaName], config := some optionsName } w
      w.room = .error (.options
        (.invalidJson (Path.ofText optionsName) source (.tooDeep kind))) := by
    simp only [Arguments.options, hload]
    rfl
  rw [run, Arguments.read_config hs ho]
  simp only [execute, hoptions]
  exact congrArg Outcome.ending (conclude_of_untold (runFrom_throw _ _) rfl [])

variable (hsdl : '\r' ∉ sdl.toList) (hschema : w.HoldsSchema schemaName sdl)
include hsdl hschema

/-- The steps of a command line that names a file with a schema and one with options for which there
is room. -/
theorem exists_run_eq (hoptions : w.HoldsOptions optionsName fields w.room) :
    ∃ requests, run w [schemaName, "--config", optionsName] =
      conclude { world := w }
        (match Options.ofLayers [Options.defaultLayer, fields], Schema.parse sdl with
        | .error fault, _ => throw (.options (.option fault))
        | .ok _, .error fault => throw (.loading (.schema fault))
        | .ok o, .ok s => produce { sources := [schemaName], config := some optionsName } o s)
        requests := by
  obtain ⟨bytes, hread, hdecode⟩ := hschema.read
  have loaded := Source.run_schema_file hschema.notUrl hread hdecode hsdl (Given.value (30 : Int))
  rw [run, Arguments.read_config hs ho]
  simp only [execute, Arguments.options_config hoptions]
  cases Options.ofLayers [Options.defaultLayer, fields] with
  | error fault => exact ⟨[], rfl⟩
  | ok o =>
    rcases hrun : Source.run (Source.schema w [schemaName] (Given.value (30 : Int))) with
      ⟨outcome, trace⟩
    rw [hrun] at loaded
    subst loaded
    simp only [Except.mapError]
    cases Schema.parse sdl with
    | error fault => exact ⟨trace.requests, rfl⟩
    | ok s => exact ⟨trace.requests, rfl⟩

/-- An output that takes the code of a successful run sees the command agree. -/
theorem agrees_of_takes (hoptions : w.HoldsOptions optionsName fields w.room)
    (takes : ∀ generated, generate sdl fields = .ok (.ok generated) →
      w.outputTakes generated.code = true) :
    Agrees sdl fields (run w [schemaName, "--config", optionsName]) := by
  obtain ⟨requests, hrun⟩ := exists_run_eq hs ho hsdl hschema hoptions
  have told {fault : OptionFault}
      (h : Options.ofLayers [Options.defaultLayer, fields] = .error fault) :
      isUntold (.options (.option fault)) = false :=
    Options.told_of_written (Options.writeFault?_of_holdsOptions hoptions.of_room) h
  rw [hrun]
  cases hparse : Schema.parse sdl with
  | error schemaFault =>
    have hgenerate : generate sdl fields = .error (.schema schemaFault) := by
      rw [generate, hparse]
      rfl
    -- the command looks at the options first, whose fault is told just as well
    cases hlayers : Options.ofLayers [Options.defaultLayer, fields] with
    | error fault =>
      exact agrees_of_refused hgenerate fun _ => conclude_of_told rfl (told hlayers) requests
    | ok o =>
      refine agrees_of_refused hgenerate fun told => ?_
      have untold : isUntold (.loading (.schema schemaFault)) = false := told
      exact conclude_of_told rfl untold requests
  | ok s =>
    cases hlayers : Options.ofLayers [Options.defaultLayer, fields] with
    | error fault =>
      have hgenerate : generate sdl fields = .error (.option fault) := by
        rw [generate, hparse, hlayers]
        rfl
      exact agrees_of_refused hgenerate fun _ => conclude_of_told rfl (told hlayers) requests
    | ok o =>
      have hgenerate : generate sdl fields = .ok (Generator.run { options := o } s) := by
        rw [generate, hparse, hlayers]
        rfl
      cases hgenerated : Generator.run { options := o } s with
      | error fault =>
        refine agrees_of_failed (hgenerate.trans (congrArg _ hgenerated)) fun fails => ?_
        obtain ⟨q, hq, stdout⟩ := exists_produce_of_error fails hgenerated { world := w }
        obtain ⟨ending, final⟩ := conclude_of_ok hq requests
        exact ⟨ending, final.trans stdout⟩
      | ok generated =>
        have hsuccess := hgenerate.trans (congrArg _ hgenerated)
        obtain ⟨q, hq, stdout⟩ := exists_produce_of_ok _ _ hgenerated (p := { world := w })
          (takes generated hsuccess)
        obtain ⟨ending, final⟩ := conclude_of_ok hq requests
        refine agrees_of_successful hsuccess ending ?_
        rw [final, stdout]
        exact String.empty_append

/-- An output that does not take the code of a successful run breaks the command off. -/
theorem escaped_of_refused (hoptions : w.HoldsOptions optionsName fields w.room)
    {generated : Generated} (h : generate sdl fields = .ok (.ok generated))
    (refused : w.outputTakes generated.code = false) :
    (run w [schemaName, "--config", optionsName]).ending = .escaped .unencodable := by
  obtain ⟨requests, hrun⟩ := exists_run_eq hs ho hsdl hschema hoptions
  obtain ⟨s, hparse, h⟩ := bind_eq_ok.1 h
  obtain ⟨o, hlayers, h⟩ := bind_eq_ok.1 h
  rw [hrun, mapError_eq_ok.1 hparse, mapError_eq_ok.1 hlayers]
  have hproduce := runFrom_produce_of_refused [schemaName] (some optionsName) (Except.ok.inj h)
    (p := { world := w }) refused
  exact congrArg Outcome.ending (conclude_of_untold hproduce rfl requests)

/-- The command over files agrees with the run over their contents and with the quick run, whether
there is code or not, exactly if the output takes the code that there is. A file of options that is
nested too deeply breaks it off. -/
theorem run_agrees_iff (hoptions : w.HoldsOptions optionsName fields) :
    (w.TooNested optionsName w.room →
      ∃ fault, (run w [schemaName, "--config", optionsName]).ending = .escaped fault) ∧
    (¬ w.TooNested optionsName w.room →
      (Agrees sdl fields (run w [schemaName, "--config", optionsName]) ↔
        ∀ r, (generate sdl fields).map RunResult.ofRun = .ok (.ok r) → r.success = true →
          w.outputTakes r.code = true)) := by
  refine ⟨fun hdeep => ?_, fun hroom => ⟨fun h r hr success => ?_, fun takes => ?_⟩⟩
  · obtain ⟨source, kind, hescaped⟩ := escaped_of_tooNested hs ho hoptions.isJson hdeep
    exact ⟨_, hescaped⟩
  · obtain ⟨hexit, -⟩ := h.successful r hr success
    by_contra hrefused
    rw [Bool.not_eq_true] at hrefused
    obtain ⟨outcome, hgenerate, hrun⟩ := map_eq_ok.1 hr
    obtain ⟨generated, rfl, rfl⟩ := RunResult.exists_run_of_success hrun success
    have hescaped := escaped_of_refused hs ho hsdl hschema (hoptions.inRoom hroom) hgenerate hrefused
    cases hescaped.symm.trans hexit
  · refine agrees_of_takes hs ho hsdl hschema (hoptions.inRoom hroom) fun generated h => ?_
    exact takes (.succeeded generated) (map_eq_ok.2 ⟨_, h, rfl⟩) rfl

end Files

/-- An input object, and a file with a prefix for its class. -/
theorem run_agrees_iff_prefix :
    let w : World := { files := [(["s.graphql"], "input A { x: Int }".toUTF8),
      (["c.json"], "\x7b\"types_prefix\": \"Api\"\x7d".toUTF8)] }
    ∃ fields, Entries.keys fields = ["types_prefix"] ∧
      Agrees "input A { x: Int }" fields (run w ["s.graphql", "--config", "c.json"]) := by
  intro w
  have hschema : w.HoldsSchema "s.graphql" "input A { x: Int }" :=
    ⟨by decide +kernel, "input A { x: Int }".toUTF8, by decide +kernel, by decide +kernel⟩
  obtain ⟨v, hv⟩ := exists_ok_of_isNone
    (x := Json.read "\x7b\"types_prefix\": \"Api\"\x7d".toList w.room) (by decide +kernel)
  have hkeys : (Json.read "\x7b\"types_prefix\": \"Api\"\x7d".toList w.room).toOption.map
      (fun v => Entries.keys v.fieldsOf) = some ["types_prefix"] := by decide +kernel
  rw [hv] at hkeys
  cases v with
  | object fields =>
    have hread : w.read (Path.ofText "c.json") =
        .ok "\x7b\"types_prefix\": \"Api\"\x7d".toUTF8 := by decide +kernel
    have hdecode : Options.decode? "\x7b\"types_prefix\": \"Api\"\x7d".toUTF8 =
        some "\x7b\"types_prefix\": \"Api\"\x7d".toList := by decide +kernel
    have hoptions : w.HoldsOptions "c.json" fields :=
      ⟨by decide +kernel, _, _, hread, hdecode, Json.read_of_read hv⟩
    have hroom : ¬ w.TooNested "c.json" w.room := by
      rintro ⟨bytes, source, kind, hread', hdecode', hdeep⟩
      cases hread.symm.trans hread'
      cases hdecode.symm.trans hdecode'
      cases hv.symm.trans hdeep
    have takes (r : RunResult) : w.outputTakes r.code = true := rfl
    clear_value w
    exact ⟨fields, Option.some.inj hkeys,
      ((run_agrees_iff (by decide) (by decide) (by decide) hschema hoptions).2 hroom).2
        fun r _ _ => takes r⟩
  | _ => cases hkeys

/-- There is code for the text of a schema and options. -/
def hasCode (sdl : String) (fields : Layer) : Bool :=
  ((generate sdl fields).toOption.bind Except.toOption).isSome

/-- A command that does not exit although there is code does not agree with the run. -/
theorem not_agrees_of_hasCode {outcome : Outcome} (hcode : hasCode sdl fields = true)
    (hexit : outcome.ending.code? = none) : ¬ Agrees sdl fields outcome := by
  intro h
  rw [hasCode] at hcode
  cases hgenerate : generate sdl fields with
  | error fault => simp [hgenerate, Except.toOption] at hcode
  | ok result =>
    cases result with
    | error fault => simp [hgenerate, Except.toOption] at hcode
    | ok generated =>
      obtain ⟨hending, -⟩ := h.successful (.succeeded generated) (by rw [hgenerate]; rfl) rfl
      rw [hending] at hexit
      cases hexit

/-- The same for a file of options that holds this text. -/
theorem exists_not_agrees (bytes : ByteArray) (source : List Char)
    (hread : w.read (Path.ofText "c.json") = .ok bytes)
    (hdecode : Options.decode? bytes = some source)
    (hcode : (Json.read source).toOption.map (fun v => (v.isObject, hasCode sdl v.fieldsOf)) =
      some (true, true))
    (hexit : (run w ["s.graphql", "--config", "c.json"]).ending.code? = none) :
    ∃ fields, w.HoldsOptions "c.json" fields ∧
      ¬ Agrees sdl fields (run w ["s.graphql", "--config", "c.json"]) := by
  cases hjson : Json.read source with
  | error fault =>
    rw [hjson] at hcode
    cases hcode
  | ok v =>
    rw [hjson] at hcode
    obtain ⟨hobject, hcode⟩ := Prod.mk.inj (Option.some.inj hcode)
    cases v with
    | object fields =>
      exact ⟨fields, ⟨by decide +kernel, bytes, source, hread, hdecode, hjson⟩,
        not_agrees_of_hasCode hcode hexit⟩
    | _ => cases hobject

/-- A prefix that is half a surrogate pair, which an output in UTF-8 does not take, and a list for
which there is no room any more. -/
theorem not_agrees_half_pair_nested :
    let sdl := "input A { x: Int }"
    let half := "\x7b\"types_prefix\": \"\\ud800\"\x7d"
    let nested := "\x7b\"x\": [[]]\x7d"
    let printing : World := { files := [(["s.graphql"], sdl.toUTF8), (["c.json"], half.toUTF8)]
                              outputTakes := World.utf8Output }
    let narrow : World := { files := [(["s.graphql"], sdl.toUTF8), (["c.json"], nested.toUTF8)]
                            room := some 2 }
    (printing.HoldsSchema "s.graphql" sdl ∧ ∃ fields, printing.HoldsOptions "c.json" fields ∧
      ¬ Agrees sdl fields (run printing ["s.graphql", "--config", "c.json"])) ∧
    narrow.HoldsSchema "s.graphql" sdl ∧ ∃ fields, narrow.HoldsOptions "c.json" fields ∧
      ¬ Agrees sdl fields (run narrow ["s.graphql", "--config", "c.json"]) := by
  intro sdl half nested printing narrow
  refine ⟨⟨⟨by decide +kernel, sdl.toUTF8, by decide +kernel, by decide +kernel⟩, ?_⟩,
    ⟨by decide +kernel, sdl.toUTF8, by decide +kernel, by decide +kernel⟩, ?_⟩
  · exact exists_not_agrees half.toUTF8 half.toList (by decide +kernel)
      (by decide +kernel) (by decide +kernel) (by decide +kernel)
  · exact exists_not_agrees nested.toUTF8 nested.toList (by decide +kernel)
      (by decide +kernel) (by decide +kernel) (by decide +kernel)

end Command

end SdlPhp
