import SdlPhp.Proofs.Delivery.Arguments
import SdlPhp.Proofs.Delivery.Delivered
import SdlPhp.Proofs.Options.Checked
import SdlPhp.Proofs.Php.File

/-!
# The target of the options

The options name a file as the target of the code. A flag that names it counts more than the file of
options (`outputFile_apply`). What is delivered goes where the flag says, so that a target is
honoured unless it is the file of options alone that names it. Main statement: `honoured_iff`.
-/

namespace SdlPhp

open Attempt

/-! ## The code -/

namespace Php.SourceFile

/-- A file has a line with its namespace at least. -/
theorem text_ne_empty (f : SourceFile) (hasTemplates : Bool) : f.text hasTemplates ≠ "" := by
  have hfile := f.rendered_eq_plainText
  rw [rendered_eq, Attempt.mapError_eq_ok, render_template] at hfile
  rw [f.text_eq, ← Except.ok.inj hfile]
  simp

end Php.SourceFile

theorem Generator.code_ne_empty {o : Options} {s : Schema} {generated : Generated}
    (h : Generator.run { options := o } s = .ok generated) : generated.code ≠ "" := by
  obtain ⟨_, -, h⟩ := bind_eq_ok.1 h
  obtain ⟨warnings, -, h⟩ := bind_eq_ok.1 h
  obtain ⟨code, hcode, h⟩ := bind_eq_ok.1 h
  obtain ⟨texts, -, hfile⟩ := bind_eq_ok.1 hcode
  obtain ⟨f, -, rfl⟩ := map_eq_ok.1 (mapError_eq_ok.1 hfile)
  rw [← pure_eq_ok.1 h]
  exact f.text_ne_empty true

/-! ## The target -/

/-- A flag that names the target counts more than what is under it. -/
theorem Arguments.outputFile_apply {a : Arguments} {base o : Options} {q : Option String}
    (hbase : base.outputFile = .value q) (h : a.apply base = .ok o) :
    ∃ p, o.outputFile = .value p ∧ nonEmpty p = (nonEmpty a.output).or (nonEmpty q) := by
  obtain ⟨scalars, -, h⟩ := bind_eq_ok.1 h
  obtain ⟨literals, -, h⟩ := bind_eq_ok.1 h
  obtain ⟨enumValues, -, h⟩ := bind_eq_ok.1 h
  rw [← pure_eq_ok.1 h]
  cases hflag : nonEmpty a.output with
  | none => exact ⟨q, hbase, rfl⟩
  | some file =>
    have hfile : file.isEmpty = false := by
      have := (Option.filter_eq_some_iff.1 hflag).2
      simpa using this
    refine ⟨some file, rfl, ?_⟩
    simp [nonEmpty, hfile]

namespace Command

variable {w : World} {words : List String} {a : Arguments} {code : String}

/-- The code is where the target says: in that file and not on the output or, if there is none, on
the output and in no file. -/
def Honoured (before : World) (target : Option String) (code : String) (outcome : Outcome) : Prop :=
  match Arguments.nonEmpty target with
  | some file => outcome.stdout = "" ∧ ∃ bytes, Text.encode? code = some bytes ∧
      outcome.world.read (Path.ofText file) = .ok bytes
  | none => outcome.stdout = code ∧ outcome.world.files = before.files

/-- What is delivered where the flag says is delivered where the target says, if that is the same or
there is none. -/
theorem honoured_iff_of_delivered {p q : Option String} {outcome : Outcome}
    (htarget : Arguments.nonEmpty p = (Arguments.nonEmpty a.output).or (Arguments.nonEmpty q))
    (hcode : code ≠ "") (h : Delivered w a.output code outcome.world outcome.stdout) :
    Honoured w p code outcome ↔
      Arguments.nonEmpty a.output ≠ none ∨ Arguments.nonEmpty q = none := by
  unfold Delivered at h
  unfold Honoured
  rw [htarget]
  cases hflag : Arguments.nonEmpty a.output with
  | some file =>
    rw [hflag] at h
    obtain ⟨stdout, bytes, hbytes, hsaved⟩ := h
    exact iff_of_true ⟨stdout, bytes, hbytes, hsaved.read⟩ (.inl (by simp))
  | none =>
    rw [hflag] at h
    cases hfile : Arguments.nonEmpty q with
    | none => exact iff_of_true h (.inr rfl)
    | some file =>
      apply iff_of_false
      · rintro ⟨stdout, -⟩
        exact hcode (h.1.symm.trans stdout)
      · rintro (hne | hnone)
        · exact hne rfl
        · cases hnone

/-- Where a command exits with 0, the target of its options, which a flag names or else the file of
options, is honoured unless it is the file of options alone that names it. -/
theorem honoured_iff (hread : Arguments.read words = .ok a)
    (hexit : (run w words).ending = .exited 0) :
    ∃ base q o p s r, Options.load w Options.defaultLayer [] a.config = .ok base ∧
      base.outputFile = .value q ∧ a.options w = .ok o ∧ o.outputFile = .value p ∧
      Arguments.nonEmpty p = (Arguments.nonEmpty a.output).or (Arguments.nonEmpty q) ∧
      (Source.run (Source.schema w a.sources a.timeout)).1 = .ok s ∧
      Generator.generate { options := o } s = .ok r ∧ r.success = true ∧
      (Honoured w p r.code (run w words) ↔
        Arguments.nonEmpty a.output ≠ none ∨ Arguments.nonEmpty q = none) := by
  obtain ⟨-, o, s, generated, ho, hs, hrun, hdelivered⟩ :=
    (withheld_or_delivered hread hexit).resolve_left (fun h => nomatch h.1)
  obtain ⟨base, hbase, happly⟩ := bind_eq_ok.1 ho
  rw [mapError_eq_ok] at hbase
  obtain ⟨q, hq⟩ := (Options.load_checked hbase).outputFile
  obtain ⟨p, hp, htarget⟩ := Arguments.outputFile_apply hq happly
  have hgenerate : Generator.generate { options := o } s = .ok (.succeeded generated) := by
    rw [Generator.generate, hrun]
    rfl
  refine ⟨base, q, o, p, s, .succeeded generated, hbase, hq, ho, hp, htarget, hs, hgenerate, rfl,
    ?_⟩
  exact honoured_iff_of_delivered htarget (Generator.code_ne_empty hrun) hdelivered

/-- A file of options whose target is empty, and no flag. -/
theorem honoured_iff_empty :
    let w : World := { files := [(["s.graphql"], "input A { x: Int }".toUTF8),
      (["c.json"], "\x7b\"output_file\": \"\"\x7d".toUTF8)] }
    ∃ (p : Option String) (r : RunResult), Arguments.nonEmpty p = none ∧ r.success = true ∧
      Honoured w p r.code (run w ["s.graphql", "--config", "c.json"]) := by
  intro w
  have hread : Arguments.read ["s.graphql", "--config", "c.json"] =
      .ok { sources := ["s.graphql"], config := some "c.json" } := by
    decide +kernel
  have hexit : (run w ["s.graphql", "--config", "c.json"]).ending = .exited 0 := by
    rw [← Ending.code?_eq_some_iff]
    decide +kernel
  have hload : (Options.load w Options.defaultLayer [] (some "c.json")).toOption.bind
      (·.outputFile.value?) = some (some "") := by
    decide +kernel
  -- the world is not to be computed with any more
  clear_value w
  obtain ⟨base, q, o, p, s, r, hbase, hq, -, -, htarget, -, -, success, hiff⟩ :=
    honoured_iff hread hexit
  have hempty : some q = some (some "") := by
    rw [hbase] at hload
    exact (congrArg Setting.value? hq).symm.trans hload
  obtain rfl : q = some "" := Option.some.inj hempty
  exact ⟨p, r, htarget, success, hiff.2 (.inr rfl)⟩

/-- A file of options that names a target, and no flag. -/
theorem not_honoured_config :
    let w : World := { files := [(["s.graphql"], "input A { x: Int }".toUTF8),
      (["c.json"], "\x7b\"output_file\": \"out.php\"\x7d".toUTF8)] }
    let a : Arguments := { sources := ["s.graphql"], config := some "c.json" }
    let words := ["s.graphql", "--config", "c.json"]
    Arguments.read words = .ok a ∧ (run w words).ending = .exited 0 ∧
      (∃ o, a.options w = .ok o ∧ o.outputFile.value? = some (some "out.php")) ∧
      ∀ code, ¬ Honoured w (some "out.php") code (run w words) := by
  intro w a words
  refine ⟨by decide +kernel, ?_, ?_, ?_⟩
  · rw [← Ending.code?_eq_some_iff]
    decide +kernel
  · have hoptions : (a.options w).toOption.bind (·.outputFile.value?) =
        some (some "out.php") := by
      decide +kernel
    clear_value w
    cases ho : a.options w with
    | error fault =>
      rw [ho] at hoptions
      cases hoptions
    | ok o =>
      rw [ho] at hoptions
      exact ⟨o, rfl, hoptions⟩
  · have hstdout : (run w words).stdout ≠ "" := by decide +kernel
    clear_value w
    rintro code ⟨hempty, -⟩
    exact hstdout hempty

end Command

end SdlPhp
