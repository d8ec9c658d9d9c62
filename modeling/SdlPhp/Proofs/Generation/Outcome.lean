import SdlPhp.Proofs.Generation.Faults

/-!
# Outcomes of a run

What is promised of a run: it always gives a result, which is a failure exactly when something is to
be emitted without a naming convention, or a value is taken of a type that is not in the registry,
and a failure leaves nothing behind. The promise is kept but for one case, in which a run breaks
off: the indentation has no text, and nothing fails before the first enum (`keepsPromise_iff`).
-/

namespace SdlPhp

open Attempt Php

/-! ## The promise -/

/-- The naming convention is one of those that there are. -/
def Options.HasConvention (o : Options) : Prop :=
  ∃ case : NameCase, o.namingConvention = .value case.text

namespace Schema

def Emits (s : Schema) : Prop := ∃ d ∈ s.definitions, d.isEmitting = true

/-- The innermost names of the types of all input fields and arguments, in source order. -/
def inputTypeNames (s : Schema) : List String := s.definitions.flatMap (·.inputTypeNames)

/-- Nothing fails before the first enum, apart from indentation. -/
def ReachesEnum (s : Schema) (o : Options) : Prop :=
  ∃ before d after, s.definitions = before ++ d :: after ∧ d.kind = .enum ∧
    ∀ e ∈ before, e.typeFault? o s.registry = none

end Schema

/-- What is promised of the outcome of a run over a schema under options. -/
structure KeepsPromise (o : Options) (s : Schema) (outcome : Except FragmentFault RunResult) :
    Prop where
  /-- Nothing breaks the run off. -/
  returns : ∃ r, outcome = .ok r
  fails_iff : ∀ r, outcome = .ok r → (r.success = false ↔
    (¬ o.HasConvention ∧ s.Emits) ∨
      (o.HasConvention ∧ ∃ n ∈ s.inputTypeNames, s.registry.contains n = false))
  convention_fault : ∀ r, outcome = .ok r → r.success = false → ¬ o.HasConvention →
    r.exception = some (.convention ⟨o.namingConvention.text⟩)
  type_fault : ∀ r, outcome = .ok r → r.success = false → o.HasConvention →
    ∃ n, s.registry.firstUnknown? s.inputTypeNames = some n ∧
      r.exception = some (.unknownType n)
  failed_empty : ∀ r, outcome = .ok r → r.success = false →
    r.code = "" ∧ r.warnings = [] ∧ r.metadata = none

/-! ## The convention -/

section Convention

variable {o : Options}

theorem NameCase.ofText?_eq_some_iff {text : String} {case : NameCase} :
    NameCase.ofText? text = some case ↔ text = case.text := by
  constructor
  · intro h
    have := List.find?_some h
    exact (beq_iff_eq.1 this).symm
  · rintro rfl
    exact NameCase.ofText?_text case

theorem Options.Checked.hasConvention_iff (ho : o.Checked) :
    o.HasConvention ↔ fault? o.nameCase = none := by
  obtain ⟨text, htext⟩ := ho.namingConvention
  rw [Options.HasConvention, Options.nameCase, htext]
  simp only [Setting.value?, Option.bind_some]
  constructor
  · rintro ⟨case, hcase⟩
    cases hcase
    rw [NameCase.ofText?_text]
    rfl
  · intro h
    cases hcase : NameCase.ofText? text with
    | some case => exact ⟨case, by rw [NameCase.ofText?_eq_some_iff.1 hcase]⟩
    | none => simp [hcase] at h

theorem Options.eq_of_fault?_nameCase {fault : ConventionFault}
    (h : fault? o.nameCase = some fault) : fault = ⟨o.namingConvention.text⟩ := by
  rw [Options.nameCase] at h
  cases hcase : o.namingConvention.value?.bind NameCase.ofText? with
  | some case => simp [hcase] at h
  | none => simpa [hcase, eq_comm] using h

end Convention

/-! ## Faults of all definitions -/

section Definitions

variable {o : Options} {r : Registry}

/-- The fault of a schema but for indentation: the convention if anything is emitted, or else the
first unknown type. -/
def Schema.typeFault? (o : Options) (s : Schema) : Option TypeFault :=
  match fault? o.nameCase with
  | some fault => if s.definitions.any (·.isEmitting) then some (.convention fault) else none
  | none => (s.registry.firstUnknown? s.inputTypeNames).map .unknownType

theorem findSome?_typeFault? (s : Schema) :
    s.definitions.findSome? (·.typeFault? o s.registry) = s.typeFault? o := by
  rw [Schema.typeFault?, Schema.inputTypeNames]
  cases hcase : fault? o.nameCase with
  | some fault =>
    induction s.definitions with
    | nil => rfl
    | cons d ds ih =>
      rw [List.findSome?_cons, List.any_cons, ih, Definition.typeFault?, declarationFault?, hcase]
      cases d.isEmitting <;> rfl
  | none =>
    induction s.definitions with
    | nil => rfl
    | cons d ds ih =>
      dsimp only at ih ⊢
      rw [List.findSome?_cons, ih, List.flatMap_cons, Registry.firstUnknown?,
        Registry.firstUnknown?, List.find?_append, Definition.typeFault?, declarationFault?, hcase]
      by_cases hd : d.isEmitting = true
      · rw [if_pos hd, Registry.firstUnknown?]
        cases d.inputTypeNames.find? (!s.registry.contains ·) <;> rfl
      · rw [if_neg hd, Definition.inputTypeNames_of_not_isEmitting hd]
        rfl

/-- With a text for the indentation only convention and types are left. -/
theorem Definition.fault?_of_indent {unit : String} (hindent : o.indent = .ok unit)
    (d : Definition) : d.fault? o r = (d.typeFault? o r).map .type := by
  rw [Definition.fault?, Definition.indentFault?, hindent]
  split <;> rfl

theorem Definition.fault?_of_kind_ne {d : Definition} (hd : d.kind ≠ .enum) :
    d.fault? o r = (d.typeFault? o r).map .type := by
  rw [Definition.fault?, Definition.indentFault?, if_neg hd]
  rfl

theorem Definition.fault?_of_enum {fault : IndentFault} (hindent : o.indent = .error fault)
    {d : Definition} (hd : d.kind = .enum) : d.fault? o r = some (.indentation fault) := by
  rw [Definition.fault?, Definition.indentFault?, hindent, if_pos hd]
  rfl

/-- Where the first enum is not reached, a definition before it has failed. -/
theorem findSome?_fault?_of_not_reachesEnum {s : Schema} (h : ¬ s.ReachesEnum o) :
    s.definitions.findSome? (·.fault? o s.registry) = (s.typeFault? o).map .type := by
  rw [← findSome?_typeFault?, List.map_findSome?]
  rw [Schema.ReachesEnum] at h
  generalize s.definitions = ds at h ⊢
  induction ds with
  | nil => rfl
  | cons d ds ih =>
    have hd : d.kind ≠ .enum := fun hd => h ⟨[], d, ds, rfl, hd, by simp⟩
    rw [List.findSome?_cons, List.findSome?_cons, Definition.fault?_of_kind_ne hd,
      Function.comp_apply]
    cases hfault : d.typeFault? o s.registry with
    | some fault => rfl
    | none =>
      refine ih ?_
      rintro ⟨before, e, after, rfl, he, hbefore⟩
      exact h ⟨d :: before, e, after, rfl, he, List.forall_mem_cons.2 ⟨hfault, hbefore⟩⟩

/-- Where the first enum is reached, its indentation is needed. -/
theorem findSome?_fault?_of_reachesEnum {s : Schema} {fault : IndentFault}
    (hindent : o.indent = .error fault) (h : s.ReachesEnum o) :
    s.definitions.findSome? (·.fault? o s.registry) = some (.indentation fault) := by
  obtain ⟨before, d, after, hsplit, hd, hbefore⟩ := h
  rw [hsplit]
  clear hsplit
  induction before with
  | nil => rw [List.nil_append, List.findSome?_cons, Definition.fault?_of_enum hindent hd]
  | cons e before ih =>
    rw [List.forall_mem_cons] at hbefore
    rw [List.cons_append, List.findSome?_cons]
    by_cases he : e.kind = .enum
    · rw [Definition.fault?_of_enum hindent he]
    · rw [Definition.fault?_of_kind_ne he, hbefore.1]
      exact ih hbefore.2

/-- Under usable options a run breaks off where the first enum is reached and has no indentation. -/
theorem Options.Usable.fails_run_iff (ho : o.Usable) (s : Schema) :
    Fails FragmentFault.isBreak (Generator.run { options := o } s) ↔
      s.ReachesEnum o ∧ ∃ fault, o.indent = .error fault := by
  have told : ¬ ∃ e, (s.typeFault? o).map FragmentFault.type = some e ∧ e.isBreak = true := by
    rintro ⟨e, he, hbreak⟩
    obtain ⟨fault, -, rfl⟩ := Option.map_eq_some_iff.1 he
    cases hbreak
  rw [fails_iff_fault?, ho.fault?_run s]
  by_cases hreaches : s.ReachesEnum o
  · cases hindent : o.indent with
    | ok unit =>
      simp only [Definition.fault?_of_indent hindent]
      rw [← Function.comp_def, ← List.map_findSome?, findSome?_typeFault?]
      exact iff_of_false told (by simp)
    | error fault =>
      rw [findSome?_fault?_of_reachesEnum hindent hreaches]
      exact iff_of_true ⟨_, rfl, rfl⟩ ⟨hreaches, fault, rfl⟩
  · rw [findSome?_fault?_of_not_reachesEnum hreaches]
    exact iff_of_false told fun h => hreaches h.1

end Definitions

/-! ## Keeping the promise -/

section Promise

variable {o : Options} {s : Schema}

theorem Schema.exists_typeFault?_iff (ho : o.Checked) :
    (∃ fault, s.typeFault? o = some fault) ↔
      (¬ o.HasConvention ∧ s.Emits) ∨
        (o.HasConvention ∧ ∃ n ∈ s.inputTypeNames, s.registry.contains n = false) := by
  rw [ho.hasConvention_iff, Schema.typeFault?]
  cases fault? o.nameCase with
  | some fault => simp [Schema.Emits]
  | none =>
    simp only [not_true_eq_false, false_and, false_or, true_and, Option.map_eq_some_iff]
    constructor
    · rintro ⟨fault, n, hn, -⟩
      exact ⟨n, List.mem_of_find?_eq_some hn, by simpa using List.find?_some hn⟩
    · rintro ⟨n, hn, hunknown⟩
      have : (s.registry.firstUnknown? s.inputTypeNames).isSome :=
        List.find?_isSome.2 ⟨n, hn, by simp [hunknown]⟩
      obtain ⟨first, hfirst⟩ := Option.isSome_iff_exists.1 this
      exact ⟨_, first, hfirst, rfl⟩

/-- A result that tells the fault of the schema, or else success, is as promised. -/
theorem keepsPromise_of_result (ho : o.Checked) {r : RunResult}
    (hfailed : ∀ fault, s.typeFault? o = some fault → r = .failed fault)
    (hsucceeded : s.typeFault? o = none → r.success = true) : KeepsPromise o s (.ok r) := by
  have fault_of_failure : r.success = false → ∃ fault, s.typeFault? o = some fault := by
    intro h
    cases hfault : s.typeFault? o with
    | some fault => exact ⟨fault, rfl⟩
    | none => rw [hsucceeded hfault] at h; cases h
  refine ⟨⟨r, rfl⟩, ?_, ?_, ?_, ?_⟩
  · rintro _ ⟨⟩
    rw [← Schema.exists_typeFault?_iff ho]
    refine ⟨fault_of_failure, ?_⟩
    rintro ⟨fault, hfault⟩
    rw [hfailed fault hfault]
    rfl
  · rintro _ ⟨⟩ hfail hconvention
    obtain ⟨fault, hfault⟩ := fault_of_failure hfail
    rw [hfailed fault hfault]
    rw [ho.hasConvention_iff] at hconvention
    obtain ⟨f, hf⟩ := Option.ne_none_iff_exists'.1 hconvention
    rw [Schema.typeFault?, hf] at hfault
    obtain ⟨-, hfault⟩ := (Option.ite_none_right_eq_some).1 hfault
    rw [← Options.eq_of_fault?_nameCase hf, ← Option.some.inj hfault]
    rfl
  · rintro _ ⟨⟩ hfail hconvention
    obtain ⟨fault, hfault⟩ := fault_of_failure hfail
    rw [hfailed fault hfault]
    rw [ho.hasConvention_iff] at hconvention
    rw [Schema.typeFault?, hconvention] at hfault
    obtain ⟨n, hn, rfl⟩ := Option.map_eq_some_iff.1 hfault
    exact ⟨n, hn, rfl⟩
  · rintro _ ⟨⟩ hfail
    obtain ⟨fault, hfault⟩ := fault_of_failure hfail
    rw [hfailed fault hfault]
    exact ⟨rfl, rfl, rfl⟩

theorem keepsPromise_of_fault? (ho : o.Checked) {outcome : Except FragmentFault Generated}
    (h : fault? outcome = (s.typeFault? o).map .type) :
    KeepsPromise o s (RunResult.ofRun outcome) := by
  cases hfault : s.typeFault? o with
  | none =>
    rw [hfault] at h
    obtain ⟨generated, rfl⟩ := fault?_eq_none.1 h
    exact keepsPromise_of_result ho (by simp [hfault]) fun _ => rfl
  | some fault =>
    rw [hfault] at h
    rw [fault?_eq_some.1 h]
    refine keepsPromise_of_result ho (fun other hother => ?_) (by simp [hfault])
    rw [Option.some.inj (hfault.symm.trans hother)]

/-- The promise is kept unless the indentation has no text and the first enum is reached. -/
theorem keepsPromise_iff {w : World} {defaults overrides : Layer} {file : Option String}
    (h : Options.load w defaults overrides file = .ok o) (s : Schema) :
    KeepsPromise o s (Generator.generate { options := o } s) ↔
      (∃ unit, o.indent = .ok unit) ∨ ¬ s.ReachesEnum o := by
  have ho := Options.load_checked h
  have hrun := Generator.fault?_run (g := { options := o }) ho s
  rw [Generator.generate]
  constructor
  · rintro ⟨⟨r, hr⟩, -⟩
    by_contra hnot
    rw [not_or, not_not] at hnot
    obtain ⟨hindent, hreaches⟩ := hnot
    cases hunit : o.indent with
    | ok unit => exact hindent ⟨unit, hunit⟩
    | error fault =>
      rw [findSome?_fault?_of_reachesEnum hunit hreaches] at hrun
      rw [fault?_eq_some.1 hrun] at hr
      cases hr
  · intro hor
    refine keepsPromise_of_fault? ho (hrun.trans ?_)
    rcases hor with ⟨unit, hindent⟩ | hreaches
    · simp only [Definition.fault?_of_indent hindent]
      rw [← findSome?_typeFault?, List.map_findSome?, Function.comp_def]
    · exact findSome?_fault?_of_not_reachesEnum hreaches

/-- An unknown type stops a run before the enum behind it needs its indentation. -/
theorem keepsPromise_unknown_type_before_enum :
    let s : Schema :=
      { definitions := [.input "I" [⟨"x", .named "Missing", none⟩] none, .enum "E" [] none]
        registry := ⟨[("I", .inputObject), ("E", .enum)]⟩ }
    ∃ o, Options.load {} Options.defaultLayer
        [("indent_size", .int Options.wordLimit)] none = .ok o ∧
      KeepsPromise o s (Generator.generate { options := o } s) := by
  intro s
  have h : Options.load {} Options.defaultLayer
      [("indent_size", .int Options.wordLimit)] none = .ok _ := rfl
  refine ⟨_, h, (keepsPromise_iff h s).2 (Or.inr ?_)⟩
  rintro ⟨before, d, after, hsplit, hd, hbefore⟩
  cases before with
  | nil =>
    cases hsplit
    cases hd
  | cons e before =>
    obtain ⟨rfl, -⟩ := List.cons.inj hsplit
    exact absurd (hbefore _ List.mem_cons_self) (by decide +kernel)

/-- A run breaks off where the failure of the naming convention is promised. -/
theorem not_keepsPromise_wide_indent :
    let s : Schema :=
      { definitions := [.enum "E" [⟨"A", none⟩] none], registry := ⟨[("E", .enum)]⟩ }
    ∃ o, Options.load {} Options.defaultLayer
        [("indent_size", .int Options.wordLimit),
          ("naming_convention", .text "kebab")] none = .ok o ∧
      ¬ KeepsPromise o s (Generator.generate { options := o } s) := by
  refine ⟨_, rfl, ?_⟩
  rintro ⟨⟨r, hr⟩, -⟩
  cases hr

end Promise

end SdlPhp
