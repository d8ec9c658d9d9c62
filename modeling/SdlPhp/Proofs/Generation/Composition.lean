import SdlPhp.Proofs.Generation.Faults
import SdlPhp.Proofs.Php.File

/-!
# Composition of a run

A run is put together from what each definition gives by itself: it succeeds if all of them do, its
code is the file around their texts in their order, and otherwise it has the fault of the first one
that fails (`composes`). Whether the file comes from the template or is put together without one
makes no difference to anything that the run gives (`generate_without_templates`).
-/

namespace SdlPhp

open Attempt Php

/-! ## With and without templates -/

section Templates

variable (o : Options)

theorem Generator.file_without_templates (body : String) :
    Generator.file { options := o, hasTemplates := false } body =
      Generator.file { options := o } body := by
  have same : (fun f : SourceFile => f.text false) = fun f => f.text true := by
    funext f
    rw [f.text_eq, f.text_eq]
  exact congrArg (fun text => (SourceFile.ofBody o body).map text) same

theorem Generator.run_without_templates (s : Schema) :
    Generator.run { options := o, hasTemplates := false } s =
      Generator.run { options := o } s := by
  have hfragments : Generator.fragments { options := o, hasTemplates := false } s =
      Generator.fragments { options := o } s := rfl
  have hcode : Generator.code { options := o, hasTemplates := false } s =
      Generator.code { options := o } s := by
    simp only [Generator.code, hfragments, Generator.file_without_templates]
  have hwarnings : Generator.warnings { options := o, hasTemplates := false } s =
      Generator.warnings { options := o } s := rfl
  simp only [Generator.run, hcode, hwarnings]

end Templates

/-- The template of a file can be read, and its tags of blocks leave nothing of their lines behind.
It can always be filled in, and gives what is put together without it. So a run has the same result
with the template and without one, as has the file around any body. -/
theorem generate_without_templates :
    (∀ f : SourceFile, Template.renderNamed SourceFile.templates SourceFile.templateName f.context =
      .ok f.plainText) ∧
      ∀ o : Options,
        (∀ body, Generator.file { options := o, hasTemplates := false } body =
          Generator.file { options := o } body) ∧
        ∀ s, Generator.generate { options := o, hasTemplates := false } s =
          Generator.generate { options := o } s := by
  refine ⟨SourceFile.rendered_eq_plainText, fun o =>
    ⟨Generator.file_without_templates o, fun s => ?_⟩⟩
  rw [Generator.generate, Generator.generate, Generator.run_without_templates]

/-! ## Definition by definition -/

namespace Generator

variable {g : Generator} {r : Registry}

/-- The text of a definition by itself, where nothing else is defined. -/
def alone (g : Generator) (r : Registry) (d : Definition) : Except FragmentFault (Option String) :=
  g.definition ⟨[d], r⟩ d

/-- Runs over definitions are put together from what each definition gives by itself. -/
structure Composes (g : Generator) (r : Registry) : Prop where
  /-- What else is defined has no say in the text of a definition. -/
  independent : ∀ s d, s.registry = r → g.definition s d = g.alone r d
  succeeds_iff : ∀ ds, (∃ result, g.generate ⟨ds, r⟩ = .ok result ∧ result.success = true) ↔
    ∀ d ∈ ds, ∃ text, g.alone r d = .ok text
  /-- The code is the file around the texts that there are. -/
  code : ∀ ds result, g.generate ⟨ds, r⟩ = .ok result → result.success = true →
    ∃ texts, List.Forall₂ (fun d text => g.alone r d = .ok text) ds texts ∧
      g.file ("\n".intercalate (texts.filterMap id)) = .ok result.code
  /-- The first definition that fails makes the run fail. -/
  failed : ∀ before d after fault, (∀ e ∈ before, ∃ text, g.alone r e = .ok text) →
    g.alone r d = .error (.type fault) →
    g.generate ⟨before ++ d :: after, r⟩ = .ok (.failed fault)
  /-- The first definition that breaks off breaks the run off. -/
  broken : ∀ before d after fault, (∀ e ∈ before, ∃ text, g.alone r e = .ok text) →
    g.alone r d = .error fault → fault.isBreak = true →
    g.generate ⟨before ++ d :: after, r⟩ = .error fault
  append : ∀ ds ds' ts ts', g.fragments ⟨ds, r⟩ = .ok ts → g.fragments ⟨ds', r⟩ = .ok ts' →
    g.fragments ⟨ds ++ ds', r⟩ = .ok (ts ++ ts')
  perm : ∀ ds ds' ts, ds.Perm ds' → g.fragments ⟨ds, r⟩ = .ok ts →
    ∃ ts', g.fragments ⟨ds', r⟩ = .ok ts' ∧ ts.Perm ts'

/-! ### Fragments -/

/-- The text of a definition by itself, if it has one. -/
def textOf (g : Generator) (r : Registry) (d : Definition) : Option String :=
  match g.alone r d with
  | .ok text => text
  | .error _ => none

theorem fragments_eq (ds : List Definition) :
    g.fragments ⟨ds, r⟩ = (ds.mapM (g.alone r)).map (List.filterMap id) := rfl

/-- The fragments of definitions are the texts that they have by themselves. -/
theorem fragments_eq_ok_iff {ds : List Definition} {ts : List String} :
    g.fragments ⟨ds, r⟩ = .ok ts ↔
      (∀ d ∈ ds, ∃ text, g.alone r d = .ok text) ∧ ts = ds.filterMap (g.textOf r) := by
  rw [fragments_eq, map_eq_ok]
  constructor
  · rintro ⟨texts, htexts, rfl⟩
    have each : ∀ d ∈ ds, ∃ text, g.alone r d = .ok text := by
      intro d hd
      obtain ⟨text, -, htext⟩ := mapM_eq_ok_mem htexts hd
      exact ⟨text, htext⟩
    refine ⟨each, ?_⟩
    rw [eq_map_of_mapM_eq_ok (g := g.textOf r) htexts fun d _ text h => by rw [textOf, h],
      List.filterMap_map]
    rfl
  · rintro ⟨each, rfl⟩
    refine ⟨ds.map (g.textOf r), ?_, by rw [List.filterMap_map]; rfl⟩
    rw [mapM_eq_ok, List.forall₂_map_right_iff, List.forall₂_same]
    intro d hd
    obtain ⟨text, htext⟩ := each d hd
    rw [textOf, htext]

theorem fragments_append {ds ds' : List Definition} {ts ts' : List String}
    (h : g.fragments ⟨ds, r⟩ = .ok ts) (h' : g.fragments ⟨ds', r⟩ = .ok ts') :
    g.fragments ⟨ds ++ ds', r⟩ = .ok (ts ++ ts') := by
  rw [fragments_eq_ok_iff] at h h' ⊢
  refine ⟨fun d hd => ?_, by rw [h.2, h'.2, List.filterMap_append]⟩
  rcases List.mem_append.1 hd with hd | hd
  · exact h.1 d hd
  · exact h'.1 d hd

theorem fragments_perm {ds ds' : List Definition} {ts : List String} (hperm : ds.Perm ds')
    (h : g.fragments ⟨ds, r⟩ = .ok ts) :
    ∃ ts', g.fragments ⟨ds', r⟩ = .ok ts' ∧ ts.Perm ts' := by
  rw [fragments_eq_ok_iff] at h
  refine ⟨ds'.filterMap (g.textOf r), fragments_eq_ok_iff.2 ⟨fun d hd => ?_, rfl⟩, ?_⟩
  · exact h.1 d (hperm.mem_iff.2 hd)
  · rw [h.2]
    exact hperm.filterMap _

/-- The fault of the first definition that fails is the fault of the fragments. -/
theorem fault?_fragments_append {before after : List Definition} {d : Definition}
    {fault : FragmentFault} (hbefore : ∀ e ∈ before, ∃ text, g.alone r e = .ok text)
    (hd : g.alone r d = .error fault) :
    fault? (g.fragments ⟨before ++ d :: after, r⟩) = some fault := by
  have passed : before.findSome? (fun e => fault? (g.alone r e)) = none :=
    List.findSome?_eq_none_iff.2 fun e he => fault?_eq_none.2 (hbefore e he)
  rw [fragments_eq, fault?_map, fault?_mapM, List.findSome?_append, passed, List.findSome?_cons, hd]
  rfl

end Generator

/-! ### Runs -/

section Runs

variable {g : Generator} {r : Registry}

/-- Where there are fragments there is code: the file around them. -/
theorem Options.Usable.exists_run (ho : g.options.Usable) {s : Schema} {texts : List String}
    (h : g.fragments s = .ok texts) :
    ∃ generated, g.run s = .ok generated ∧
      g.file ("\n".intercalate texts) = .ok generated.code := by
  have hrun := g.fault?_run_fragments ho s
  rw [h, fault?_ok, fault?_eq_none] at hrun
  obtain ⟨generated, hgenerated⟩ := hrun
  refine ⟨generated, hgenerated, ?_⟩
  obtain ⟨_, -, hrun⟩ := bind_eq_ok.1 hgenerated
  obtain ⟨_, -, hrun⟩ := bind_eq_ok.1 hrun
  obtain ⟨code, hcode, hrun⟩ := bind_eq_ok.1 hrun
  rw [Generator.code, h] at hcode
  rw [← pure_eq_ok.1 hrun]
  exact mapError_eq_ok.1 hcode

theorem RunResult.exists_run_of_success {x : Except FragmentFault Generated} {result : RunResult}
    (h : RunResult.ofRun x = .ok result) (success : result.success = true) :
    ∃ generated, x = .ok generated ∧ result = .succeeded generated := by
  cases x with
  | ok generated =>
    cases h
    exact ⟨generated, rfl, rfl⟩
  | error fault =>
    cases fault <;> cases h
    cases success

/-- A run succeeds exactly where there are fragments. -/
theorem Options.Usable.generate_success_iff (ho : g.options.Usable) (s : Schema) :
    (∃ result, g.generate s = .ok result ∧ result.success = true) ↔
      ∃ texts, g.fragments s = .ok texts := by
  rw [← fault?_eq_none, ← g.fault?_run_fragments ho s, fault?_eq_none, Generator.generate]
  constructor
  · rintro ⟨result, hresult, success⟩
    obtain ⟨generated, hrun, -⟩ := RunResult.exists_run_of_success hresult success
    exact ⟨generated, hrun⟩
  · rintro ⟨generated, hrun⟩
    rw [hrun]
    exact ⟨_, rfl, rfl⟩

/-- Under loaded options runs are put together from what each definition gives by itself. -/
theorem composes {w : World} {defaults overrides : Layer} {file : Option String}
    (h : Options.load w defaults overrides file = .ok g.options) (r : Registry) :
    g.Composes r := by
  have ho := (Options.load_checked h).usable
  have stopped {before after : List Definition} {d : Definition} {fault : FragmentFault}
      (hbefore : ∀ e ∈ before, ∃ text, g.alone r e = .ok text) (hd : g.alone r d = .error fault) :
      g.run ⟨before ++ d :: after, r⟩ = .error fault := by
    rw [← fault?_eq_some, g.fault?_run_fragments ho]
    exact Generator.fault?_fragments_append hbefore hd
  refine {
    independent := fun s d hs => by rw [Generator.alone, Generator.definition, hs]; rfl
    succeeds_iff := fun ds => ?_
    code := fun ds result hresult success => ?_
    failed := fun before d after fault hbefore hd => ?_
    broken := fun before d after fault hbefore hd hbreak => ?_
    append := fun _ _ _ _ => Generator.fragments_append
    perm := fun _ _ _ => Generator.fragments_perm }
  · rw [ho.generate_success_iff]
    simp only [Generator.fragments_eq_ok_iff, exists_and_left, exists_eq, and_true]
  · obtain ⟨texts, htexts⟩ := (ho.generate_success_iff _).1 ⟨result, hresult, success⟩
    obtain ⟨generated, hrun, hfile⟩ := ho.exists_run htexts
    obtain ⟨found, hfound, rfl⟩ := map_eq_ok.1 htexts
    rw [Generator.generate, hrun] at hresult
    cases hresult
    exact ⟨found, mapM_eq_ok.1 hfound, hfile⟩
  · rw [Generator.generate, stopped hbefore hd]
    rfl
  · rw [Generator.generate, stopped hbefore hd]
    cases fault with
    | type fault => cases hbreak
    | indentation fault => rfl
    | misuse fault => rfl

/-- An unknown type behind an enum that can be written. -/
theorem composes_unknown_behind_enum :
    let e : Definition := .enum "E" [⟨"A", none⟩] none
    let i : Definition := .input "I" [⟨"x", .named "Missing", none⟩] none
    ∃ g : Generator, Options.load {} Options.defaultLayer [] none = .ok g.options ∧
      g.generate ⟨[e, i], ⟨[("E", .enum), ("I", .inputObject)]⟩⟩ =
        .ok (.failed (.unknownType "Missing")) := by
  intro e i
  have h : Options.load {} Options.defaultLayer [] none = .ok _ := rfl
  refine ⟨{ options := _ }, h, (composes h _).failed [e] i [] _ ?_ rfl⟩
  intro d hd
  cases List.mem_singleton.1 hd
  exact exists_ok_of_isNone (by decide +kernel)

end Runs

end SdlPhp
