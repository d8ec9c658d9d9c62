import SdlPhp.Proofs.Delivery.Untold

/-!
# Commands that come to an end

A command whose arguments can be read exits with 0 or 1, and tells why it has no options or no
schema, unless something is wrong that it does not tell. Main statement: `settled_iff`.
-/

namespace SdlPhp.Command

open Attempt

variable {w : World} {words : List String} {a : Arguments} {o : Options} {s : Schema}
  {p : Progress} {fault : CommandFault} {requests : List (String × Given Int)}

/-- The outcome tells the fault as an error: it exits with 1 and leaves nothing on the output. -/
structure Tells (outcome : Outcome) (fault : CommandFault) : Prop where
  ending : outcome.ending = .exited 1
  stdout : outcome.stdout = ""
  messages : Markup.lines ("[red]✗ Error:[/red] " ++ Markup.escape fault.message) =
    .ok outcome.messages

/-- The command comes to an end, and what keeps it from having options or a schema is told. -/
structure Settled (w : World) (a : Arguments) (outcome : Outcome) : Prop where
  exits : outcome.ending = .exited 0 ∨ outcome.ending = .exited 1
  options_told : ∀ fault, Options.load w Options.defaultLayer [] a.config w.room = .error fault →
    Tells outcome (.options fault)
  schema_told : ∀ o fault, a.options w w.room = .ok o →
    (Source.run (Source.schema w a.sources a.timeout)).1 = .error fault →
      Tells outcome (.loading fault)

/-! ## Faults that are told -/

theorem tells_conclude (w : World) (told : isUntold fault = false)
    (requests : List (String × Given Int)) :
    Tells (conclude { world := w } (throw fault) requests) fault := by
  obtain ⟨ls, hls⟩ := exists_lines_tell fault.message
  have said : runFrom { world := w } (tell fault) =
      (.ok 1, { world := w, messages := [] ++ ls }) := by
    rw [tell, say, hls]
    rfl
  rw [conclude_eq, runFrom_tryCatch, runFrom_throw]
  simp only [told, Bool.false_eq_true, if_false, said]
  exact ⟨rfl, rfl, hls⟩

/-! ## Exit codes -/

theorem exited_or_escaped_conclude (p : Progress) (x : Running Nat)
    (requests : List (String × Given Int)) :
    (∃ code, (conclude p x requests).ending = .exited code) ∨
      ∃ fault, (conclude p x requests).ending = .escaped fault := by
  rw [conclude_eq]
  split
  · exact .inl ⟨_, rfl⟩
  · exact .inr ⟨_, rfl⟩

/-- The steps of a command give 0 or 1. -/
theorem code_of_produce {code : Nat} {q : Progress}
    (h : runFrom { world := w } (produce a o s) = (.ok code, q)) : code = 0 ∨ code = 1 := by
  cases hrun : Generator.run { options := o } s with
  | error fault => exact .inr (eq_one_of_produce_of_error hrun h)
  | ok generated => exact .inl (delivered_of_produce hrun h rfl).1

theorem exits_conclude {x : Running Nat}
    (hcode : ∀ code q, runFrom p x = (.ok code, q) → code = 0 ∨ code = 1)
    (h : ¬ ∃ fault, (conclude p x requests).ending = .escaped fault) :
    (conclude p x requests).ending = .exited 0 ∨ (conclude p x requests).ending = .exited 1 := by
  obtain ⟨code, hexit⟩ := (exited_or_escaped_conclude p x requests).resolve_right h
  obtain ⟨outcome, q, hq, -, -, rfl | ⟨rfl, -⟩⟩ := exited_conclude hexit
  · rcases hcode code q hq with rfl | rfl
    · exact .inl hexit
    · exact .inr hexit
  · exact .inr hexit

theorem exits_execute (h : ¬ ∃ fault, (execute w a).ending = .escaped fault) :
    (execute w a).ending = .exited 0 ∨ (execute w a).ending = .exited 1 := by
  have thrown (fault : CommandFault) (code : Nat) (q : Progress)
      (hthrow : runFrom { world := w } (throw fault : Running Nat) = (.ok code, q)) :
      code = 0 ∨ code = 1 := nomatch hthrow
  unfold execute at h ⊢
  split at h
  · exact exits_conclude (thrown _) h
  · dsimp only at h ⊢
    split at h
    · exact exits_conclude (thrown _) h
    · exact exits_conclude (fun code q => code_of_produce) h

/-! ## Commands that settle -/

theorem tells_options (h : ¬ Untold w a) {fault : OptionsFault}
    (hload : Options.load w Options.defaultLayer [] a.config w.room = .error fault) :
    Tells (execute w a) (.options fault) := by
  have hoptions : a.options w w.room = .error (.options fault) := by
    rw [Arguments.options, hload]
    rfl
  have told : isUntold (.options fault) = false := by
    by_contra huntold
    rw [Bool.not_eq_false] at huntold
    exact h (escaped_iff.1 (escaped_execute_iff.2 (.inl ⟨_, hoptions, huntold⟩)))
  unfold execute
  rw [hoptions]
  exact tells_conclude w told []

theorem tells_schema (h : ¬ Untold w a) {fault : LoadFault}
    (ho : a.options w w.room = .ok o)
    (hs : (Source.run (Source.schema w a.sources a.timeout)).1 = .error fault) :
    Tells (execute w a) (.loading fault) := by
  have told : isUntold (.loading fault) = false := by
    by_contra huntold
    rw [Bool.not_eq_false] at huntold
    have loaded := (Source.comesTo_schema w a.sources a.timeout {}).symm.trans hs
    exact h (escaped_iff.1 (escaped_execute_iff.2 (.inr ⟨o, ho, .inl ⟨fault, loaded, huntold⟩⟩)))
  unfold execute
  rw [ho]
  rcases hrun : Source.run (Source.schema w a.sources a.timeout) with ⟨outcome, trace⟩
  rw [hrun] at hs
  subst hs
  exact tells_conclude w told trace.requests

/-- A command settles unless something is wrong that it does not tell. -/
theorem settled_iff (hread : Arguments.read words = .ok a) :
    Settled w a (run w words) ↔ ¬ Untold w a := by
  rw [run, hread]
  constructor
  · rintro ⟨exits, -, -⟩ huntold
    obtain ⟨fault, hescaped⟩ := escaped_iff.2 huntold
    rcases exits with hexit | hexit <;> cases hescaped.symm.trans hexit
  · intro h
    exact {
      exits := exits_execute (escaped_iff.not.2 h)
      options_told := fun fault hload => tells_options h hload
      schema_told := fun o fault ho hs => tells_schema h ho hs }

/-- A schema that stands in a file. -/
theorem settled_iff_input :
    let w : World := { files := [(["s.graphql"], "input A { x: Int }".toUTF8)] }
    Settled w { sources := ["s.graphql"] } (run w ["s.graphql"]) := by
  intro w
  have hread : Arguments.read ["s.graphql"] = .ok { sources := ["s.graphql"] } := by
    decide +kernel
  have hexit : (execute w { sources := ["s.graphql"] }).ending = .exited 0 := by
    rw [← Ending.code?_eq_some_iff]
    decide +kernel
  -- the world is not to be computed with any more
  clear_value w
  refine (settled_iff hread).2 fun h => ?_
  obtain ⟨fault, hescaped⟩ := escaped_iff.2 h
  cases hescaped.symm.trans hexit

/-- A schema file that holds no text in UTF-8. -/
theorem not_settled_undecodable :
    let w : World := { files := [(["s.graphql"], ⟨#[0xff]⟩)] }
    let a : Arguments := { sources := ["s.graphql"] }
    Arguments.read ["s.graphql"] = .ok a ∧ ¬ Settled w a (run w ["s.graphql"]) := by
  intro w a
  refine ⟨by decide +kernel, fun h => ?_⟩
  have hcode : (run w ["s.graphql"]).ending.code? = none := by decide +kernel
  rcases h.exits with hexit | hexit <;> simp [hexit, Ending.code?] at hcode

end SdlPhp.Command
