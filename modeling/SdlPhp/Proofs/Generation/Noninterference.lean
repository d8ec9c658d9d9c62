import SdlPhp.Generation.Result
import SdlPhp.Proofs.Attempt

/-!
# What the code does not show

Of a definition the code shows names, the innermost names of types and whether there is a list
around them, and the description of an enum if there are comments. All else can be erased from the
definitions of a schema (`fragment_erase`), and schemas that agree after that have the same code or
the same fault (`generate_bare_of_erase`).
-/

namespace SdlPhp

open Attempt Php
open Php.TypeMap (calledFields)

/-! ## Erasing -/

/-- The plainest type with the same innermost name, in a list if there is one anywhere. -/
def TypeRef.erase (t : TypeRef) : TypeRef :=
  if t.hasList then .list (.named t.innermost) else .named t.innermost

@[simp]
theorem TypeRef.innermost_erase (t : TypeRef) : t.erase.innermost = t.innermost := by
  unfold erase
  split <;> rfl

@[simp]
theorem TypeRef.hasList_erase (t : TypeRef) : t.erase.hasList = t.hasList := by
  unfold erase
  split
  · rename_i h
    exact h.symm
  · rename_i h
    exact (Bool.eq_false_iff.2 h).symm

def InputValue.erase (v : InputValue) : InputValue where
  name := v.name
  type := v.type.erase

/-- A field without its type, which is put in the place of the arguments. -/
def ObjectField.erase (f : ObjectField) : ObjectField where
  name := f.name
  type := .named ""
  arguments := f.arguments.map InputValue.erase

def EnumValue.erase (v : EnumValue) : EnumValue where
  name := v.name

/-- A definition without what the code does not show; the description of an enum is left if there
are comments, and of the fields of an object those that take arguments. -/
def Definition.erase (comments : Bool) : Definition → Definition
  | enum name values description =>
    enum name (values.map EnumValue.erase) (if comments then description else none)
  | input name fields _ => input name (fields.map InputValue.erase) none
  | object name fields _ => object name ((calledFields fields).map ObjectField.erase) none

/-! ## Definitions -/

namespace Php.TypeMap

variable (m : TypeMap)

theorem resolve_erase (t : TypeRef) : m.resolve t.erase = m.resolve t := by
  rw [resolve, resolve, TypeRef.innermost_erase, TypeRef.hasList_erase]

theorem parameter_erase (v : InputValue) : m.parameter v.erase = m.parameter v := by
  rw [parameter, parameter, InputValue.erase, m.resolve_erase]

theorem dataClass_erase (name : String) (values : List InputValue) :
    m.dataClass name (values.map InputValue.erase) = m.dataClass name values := by
  have hparameters : (values.map InputValue.erase).mapM m.parameter = values.mapM m.parameter := by
    rw [List.mapM_map]
    exact congrArg (values.mapM ·) (funext m.parameter_erase)
  rw [dataClass, dataClass, hparameters]

theorem argumentsClass_erase (type : String) (f : ObjectField) :
    m.argumentsClass type f.erase = m.argumentsClass type f := by
  simp only [argumentsClass, ObjectField.erase, m.dataClass_erase]

theorem calledFields_erase (fields : List ObjectField) :
    calledFields ((calledFields fields).map ObjectField.erase) =
      (calledFields fields).map ObjectField.erase := by
  rw [calledFields, calledFields, List.filter_eq_self]
  intro f hf
  obtain ⟨e, he, rfl⟩ := List.mem_map.1 hf
  simpa [ObjectField.erase] using (List.mem_filter.1 he).2

/-- The literals of an enum are found by the names of its values. -/
theorem mapM_caseName_erase (name : String) (values : List EnumValue) :
    (values.map EnumValue.erase).mapM (fun v => caseName m.options name v.name) =
      values.mapM fun v => caseName m.options name v.name := by
  rw [List.mapM_map]
  rfl

/-- Without comments the description of an enum is not looked at. -/
theorem text_enumeration_erase (o : Options) (e : Enumeration) :
    Enumeration.text o
        { e with description := if o.addComments.isTrue then e.description else none } =
      Enumeration.text o e := by
  unfold Enumeration.text
  cases o.addComments.isTrue <;> rfl

theorem fragment_enum (name : String) (values : List EnumValue) (description : Option String) :
    m.fragment (.enum name values description) =
      (m.enumeration name values description).map fun e => some (e.text m.options) := by
  rw [fragment, items]
  cases m.enumeration name values description with
  | error fault => rfl
  | ok e => exact congrArg (Except.ok ∘ some) String.intercalate_singleton

/-- What is erased from a definition is not seen in its text, nor in the fault that it has. -/
theorem fragment_erase (d : Definition) :
    m.fragment (d.erase m.options.addComments.isTrue) = m.fragment d := by
  cases d with
  | enum name values description =>
    rw [Definition.erase, m.fragment_enum, m.fragment_enum, enumeration, enumeration,
      m.mapM_caseName_erase]
    cases values.mapM fun v => caseName m.options name v.name with
    | error fault => rfl
    | ok cases =>
      cases m.options.indent with
      | error fault => rfl
      | ok unit =>
        cases m.name name with
        | error fault => rfl
        | ok n =>
          exact congrArg (Except.ok ∘ some)
            (text_enumeration_erase m.options ⟨n, cases, unit, description⟩)
  | input name fields description =>
    rw [fragment, fragment, Definition.erase, items, items]
    simp only [m.dataClass_erase]
  | object name fields description =>
    rw [fragment, fragment, Definition.erase, items, items, calledFields_erase, List.mapM_map]
    simp only [Function.comp_def, m.argumentsClass_erase]

end Php.TypeMap

/-! ## Runs -/

section Runs

variable (g : Generator)

theorem Generator.definition_erase (s : Schema) (d : Definition) :
    g.definition s (d.erase g.options.addComments.isTrue) = g.definition s d := by
  rw [Generator.definition, Generator.definition, Generator.typeMap, TypeMap.ofOptions]
  cases scalarTypes g.options with
  | error fault => rfl
  | ok types => exact TypeMap.fragment_erase _ d

theorem Generator.mapM_definition_erase (s : Schema) (ds : List Definition) :
    (ds.map (Definition.erase g.options.addComments.isTrue)).mapM (g.definition s) =
      ds.mapM (g.definition s) := by
  rw [List.mapM_map]
  exact congrArg (ds.mapM ·) (funext (g.definition_erase s))

variable {g} {s s' : Schema}

theorem Generator.code_of_erase (hregistry : s.registry = s'.registry)
    (h : s.definitions.map (Definition.erase g.options.addComments.isTrue) =
      s'.definitions.map (Definition.erase g.options.addComments.isTrue)) :
    g.code s = g.code s' := by
  have hdefinition : g.definition s = g.definition s' := by
    funext d
    rw [Generator.definition, Generator.definition, hregistry]
  have hfragments : g.fragments s = g.fragments s' := by
    rw [Generator.fragments, Generator.fragments, ← g.mapM_definition_erase, h,
      g.mapM_definition_erase, hdefinition]
  rw [Generator.code, Generator.code, hfragments]

/-- What a run does before its code does not depend on the definitions. -/
theorem Generator.map_code_run (s : Schema) :
    (g.run s).map (·.code) = (do
      let _ ← (resolveNamespace g.options).mapError .misuse
      let _ ← g.options.warnings.mapError .misuse
      let _ ← (g.typeMap s.registry).mapError .misuse
      g.code s) := by
  rw [Generator.run, Generator.warnings]
  cases resolveNamespace g.options with
  | error fault => rfl
  | ok ns =>
    cases g.options.warnings with
    | error fault => rfl
    | ok ofOptions =>
      cases g.typeMap s.registry with
      | error fault => rfl
      | ok m => cases g.code s <;> rfl

/-- A result with nothing but its success, its code and its fault. -/
def RunResult.bare (r : RunResult) : RunResult := { r with warnings := [], metadata := none }

theorem RunResult.map_bare_ofRun {x y : Except FragmentFault Generated}
    (h : x.map (·.code) = y.map (·.code)) :
    (RunResult.ofRun x).map bare = (RunResult.ofRun y).map bare := by
  cases x with
  | error fault =>
    cases y with
    | error other => cases h; rfl
    | ok generated => cases h
  | ok generated =>
    cases y with
    | error other => cases h
    | ok other =>
      have hcode : generated.code = other.code := Except.ok.inj h
      simp only [RunResult.ofRun, Except.map, RunResult.bare, RunResult.succeeded, hcode]

/-- Schemas with one registry whose definitions agree but for what is erased have the same code, or
fail alike. -/
theorem generate_bare_of_erase (hregistry : s.registry = s'.registry)
    (h : s.definitions.map (Definition.erase g.options.addComments.isTrue) =
      s'.definitions.map (Definition.erase g.options.addComments.isTrue)) :
    (g.generate s).map RunResult.bare = (g.generate s').map RunResult.bare := by
  refine RunResult.map_bare_ofRun ?_
  rw [Generator.map_code_run, Generator.map_code_run, Generator.code_of_erase hregistry h, hregistry]

/-- Descriptions, a field without arguments, and modifiers inside and outside of a list. -/
theorem generate_bare_of_erase_point :
    let r : Registry := ⟨[("Int", .scalar), ("P", .inputObject), ("Q", .object)]⟩
    let s : Schema := ⟨[.input "P" [⟨"x", .list (.nonNull (.named "Int")), some "first"⟩] none,
      .object "Q" [⟨"n", .named "Int", [], none⟩,
        ⟨"f", .named "Int", [⟨"a", .named "P", none⟩], none⟩] (some "all")], r⟩
    let s' : Schema := ⟨[.input "P" [⟨"x", .nonNull (.list (.named "Int")), none⟩] (some "point"),
      .object "Q" [⟨"f", .named "Q", [⟨"a", .nonNull (.named "P"), none⟩], none⟩] none], r⟩
    (Generator.generate { options := {} } s).map RunResult.bare =
      (Generator.generate { options := {} } s').map RunResult.bare := by
  intro r s s'
  exact generate_bare_of_erase rfl rfl

end Runs

end SdlPhp
