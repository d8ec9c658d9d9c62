import SdlPhp.Proofs.Generation.Parts
import SdlPhp.Proofs.Schema.Canonical

/-!
# Faults of a run

Which fault stops a run under usable options. A definition that emits something needs the naming
convention before it needs any type, an enum needs its indentation before both, and a definition
that emits nothing needs none of them (`fault?_items`). A run has the first fault of a definition
(`fault?_run`). Over an accepted text all types are known, so that with a naming convention only the
indentation is left (`exists_run_ok_iff`).
-/

namespace SdlPhp

open Attempt Php
open Php.TypeMap (calledFields)

/-! ## What a definition asks for -/

/-- The definition makes a file declare something: it is an enum, an input object, or an object with
a field that takes arguments. -/
def Definition.isEmitting : Definition → Bool
  | enum _ _ _ => true
  | input _ _ _ => true
  | object _ fields _ => fields.any (!·.arguments.isEmpty)

/-- The innermost names of the types of input fields and arguments, in the order of the source. -/
def Definition.inputTypeNames (d : Definition) : List String :=
  d.inputValues.map (·.type.innermost)

/-- The first name that is not in the registry. -/
def Registry.firstUnknown? (r : Registry) (names : List String) : Option String :=
  names.find? (!r.contains ·)

/-- Why a declaration with parameters of these types cannot be written: the naming convention, or
else the first unknown type. -/
def Php.declarationFault? (o : Options) (r : Registry) (names : List String) : Option TypeFault :=
  match fault? o.nameCase with
  | some fault => some (.convention fault)
  | none => (r.firstUnknown? names).map .unknownType

/-- Why the text of a definition cannot be written, apart from its indentation. -/
def Definition.typeFault? (o : Options) (r : Registry) (d : Definition) : Option TypeFault :=
  if d.isEmitting then declarationFault? o r d.inputTypeNames else none

/-- Why there is no indentation for a definition; only enums are indented. -/
def Definition.indentFault? (o : Options) (d : Definition) : Option IndentFault :=
  if d.kind = .enum then fault? o.indent else none

/-- The fault of a definition. -/
def Definition.fault? (o : Options) (r : Registry) (d : Definition) : Option FragmentFault :=
  ((d.indentFault? o).map .indentation).or ((d.typeFault? o r).map .type)

/-! ## Names and types -/

section Types

variable {m : TypeMap} {r : Registry} {o : Options}

theorem Php.TypeMap.IsFor.fault?_name (hm : m.IsFor r o) (name : String) :
    fault? (m.name name) = (fault? o.nameCase).map .convention := by
  rw [TypeMap.name, hm.typeName, Options.typeName, fault?_mapError, fault?_map]

theorem Php.TypeMap.IsFor.fault?_inputName (hm : m.IsFor r o) (name : String) :
    fault? (m.inputName name) = (fault? o.nameCase).map .convention := by
  rw [TypeMap.inputName, fault?_map, hm.fault?_name]

theorem Php.TypeMap.IsFor.fault?_fieldName (hm : m.IsFor r o) (name : String) :
    fault? (m.fieldName name) = (fault? o.nameCase).map .convention := by
  rw [TypeMap.fieldName, fault?_map, fault?_mapError, hm.options]

/-- With a naming convention only an unknown type has no text. -/
theorem Php.TypeMap.IsFor.fault?_baseType (hm : m.IsFor r o) (hcase : fault? o.nameCase = none)
    (name : String) :
    fault? (m.baseType name) = if r.contains name then none else some (.unknownType name) := by
  rw [Registry.contains, Entries.has, ← Registry.kind?, TypeMap.baseType, hm.registry]
  cases hkind : r.kind? name with
  | none => rfl
  | some kind =>
    cases kind with
    | inputObject =>
      simp only [fault?_map, hm.fault?_inputName, hcase]
      rfl
    | enum =>
      simp only [fault?_map, hm.fault?_name, hcase]
      rfl
    | scalar => rfl
    | object => rfl
    | interface => rfl
    | union => rfl

theorem Php.TypeMap.IsFor.fault?_parameter (hm : m.IsFor r o) (hcase : fault? o.nameCase = none)
    (v : InputValue) :
    fault? (m.parameter v) =
      if r.contains v.type.innermost then none else some (.unknownType v.type.innermost) := by
  rw [TypeMap.parameter, fault?_bind_pure, TypeMap.resolve,
    fault?_map, hm.fault?_baseType hcase]

/-- The parameters of a class fail at the first unknown type. -/
theorem Php.TypeMap.IsFor.fault?_dataClass (hm : m.IsFor r o) (hcase : fault? o.nameCase = none)
    (name : String) (values : List InputValue) :
    fault? (m.dataClass name values) =
      (r.firstUnknown? (values.map (·.type.innermost))).map .unknownType := by
  rw [TypeMap.dataClass, fault?_bind_pure, fault?_mapM]
  induction values with
  | nil => rfl
  | cons v values ih =>
    rw [List.findSome?_cons, hm.fault?_parameter hcase, ih, Registry.firstUnknown?,
      Registry.firstUnknown?, List.map_cons, List.find?_cons]
    cases r.contains v.type.innermost with
    | true => rfl
    | false => rfl

end Types

/-! ## Definitions -/

section Items

variable {m : TypeMap} {r : Registry} {o : Options}

theorem Php.TypeMap.IsFor.fault?_enumeration (hm : m.IsFor r o) (ho : o.Usable) (name : String)
    (values : List EnumValue) (description : Option String) :
    fault? (m.enumeration name values description) =
      ((fault? o.indent).map .indentation).or ((declarationFault? o r []).map .type) := by
  have hcases : ∃ cases, values.mapM (fun v => caseName m.options name v.name) = .ok cases := by
    refine fault?_eq_none.1 ?_
    rw [fault?_mapM, List.findSome?_eq_none_iff]
    intro v _
    rw [hm.options, ho.caseName, fault?_ok]
  obtain ⟨cases, hcases⟩ := hcases
  rw [TypeMap.enumeration, hcases, Except.mapError, hm.options]
  change fault? (o.indent.mapError FragmentFault.indentation >>= _) = _
  rw [fault?_bind _ _ fun indent _ => fault?_bind_pure _ _, fault?_mapError, fault?_mapError,
    hm.fault?_name, declarationFault?]
  cases fault? o.nameCase with
  | some fault => rfl
  | none => rfl

/-- The class of an input object needs the naming convention for its name before any type. -/
theorem Php.TypeMap.IsFor.fault?_input (hm : m.IsFor r o) (name : String)
    (values : List InputValue) :
    fault? (do m.dataClass (← m.inputName name) values) =
      declarationFault? o r (values.map (·.type.innermost)) := by
  have hname := hm.fault?_inputName name
  rw [declarationFault?]
  cases hcase : fault? o.nameCase with
  | some fault =>
    rw [hcase] at hname
    rw [fault?_eq_some.1 hname]
    rfl
  | none =>
    rw [hcase] at hname
    obtain ⟨n, hn⟩ := fault?_eq_none.1 hname
    rw [hn]
    exact hm.fault?_dataClass hcase n values

/-- The class for the arguments of a field is like that of an input object. -/
theorem Php.TypeMap.IsFor.fault?_argumentsClass (hm : m.IsFor r o) (type : String)
    (f : ObjectField) :
    fault? (m.argumentsClass type f) =
      declarationFault? o r (f.arguments.map (·.type.innermost)) := by
  have hname := hm.fault?_name type
  have hfield := hm.fault?_fieldName f.name
  rw [TypeMap.argumentsClass, declarationFault?]
  cases hcase : fault? o.nameCase with
  | some fault =>
    rw [hcase] at hname
    rw [fault?_eq_some.1 hname]
    rfl
  | none =>
    rw [hcase] at hname hfield
    obtain ⟨n, hn⟩ := fault?_eq_none.1 hname
    obtain ⟨p, hp⟩ := fault?_eq_none.1 hfield
    rw [hn, hp]
    exact hm.fault?_dataClass hcase _ f.arguments

/-- What does not emit takes no values. -/
theorem Definition.inputTypeNames_of_not_isEmitting {d : Definition} (h : ¬ d.isEmitting = true) :
    d.inputTypeNames = [] := by
  cases d with
  | enum name values description => rfl
  | input name fields description => exact absurd rfl h
  | object name fields description =>
    rw [inputTypeNames, List.map_eq_nil_iff]
    refine List.flatMap_eq_nil_iff.2 fun f hf => ?_
    by_contra hargs
    exact h (List.any_eq_true.2 ⟨f, hf, by simpa using hargs⟩)

/-- The fields that take arguments are looked at one after the other; the others have no say. -/
theorem firstUnknown?_calledFields (r : Registry) (fields : List ObjectField) :
    ((calledFields fields).findSome? fun f =>
        r.firstUnknown? (f.arguments.map (·.type.innermost))) =
      r.firstUnknown? ((fields.flatMap (·.arguments)).map (·.type.innermost)) := by
  induction fields with
  | nil => rfl
  | cons f fields ih =>
    rw [List.flatMap_cons, List.map_append, Registry.firstUnknown?, List.find?_append]
    cases hargs : f.arguments with
    | nil => simpa [calledFields, hargs, Registry.firstUnknown?] using ih
    | cons a args =>
      have hcalled : calledFields (f :: fields) = f :: calledFields fields := by
        simp [calledFields, hargs]
      rw [hcalled, List.findSome?_cons, ih, hargs, Registry.firstUnknown?, Registry.firstUnknown?]
      cases List.find? (!r.contains ·) ((a :: args).map (·.type.innermost)) <;> rfl

/-- The classes of an object fail with the convention if there are any, or else at the first unknown
type of an argument. -/
theorem findSome?_calledFields (o : Options) (r : Registry) (fields : List ObjectField) :
    ((calledFields fields).findSome? fun f =>
        declarationFault? o r (f.arguments.map (·.type.innermost))) =
      if fields.any (!·.arguments.isEmpty) then
        declarationFault? o r ((fields.flatMap (·.arguments)).map (·.type.innermost))
      else none := by
  by_cases hany : fields.any (!·.arguments.isEmpty) = true
  · rw [if_pos hany]
    unfold declarationFault?
    cases fault? o.nameCase with
    | some fault =>
      obtain ⟨f, hf, hargs⟩ := List.any_eq_true.1 hany
      have hcalled : calledFields fields ≠ [] :=
        List.ne_nil_of_mem (List.mem_filter.2 ⟨hf, hargs⟩)
      cases hfields : calledFields fields with
      | nil => exact absurd hfields hcalled
      | cons f called => rfl
    | none => rw [← firstUnknown?_calledFields, List.map_findSome?, Function.comp_def]
  · have hcalled : calledFields fields = [] := by
      rw [calledFields, List.filter_eq_nil_iff]
      exact fun f hf hargs => hany (List.any_eq_true.2 ⟨f, hf, hargs⟩)
    rw [if_neg hany, hcalled]
    rfl

/-- A definition that can be written or not: an enum needs its indentation, and all that is emitted
needs the naming convention before any type. -/
theorem Php.TypeMap.IsFor.fault?_items (hm : m.IsFor r o) (ho : o.Usable) (d : Definition) :
    fault? (m.items d) = d.fault? o r := by
  rw [Definition.fault?, Definition.indentFault?, Definition.typeFault?]
  cases d with
  | enum name values description =>
    rw [TypeMap.items, fault?_bind_pure, hm.fault?_enumeration ho]
    rfl
  | input name fields description =>
    rw [TypeMap.items, fault?_bind_pure, fault?_mapError, hm.fault?_input]
    rfl
  | object name fields description =>
    rw [TypeMap.items, fault?_mapM]
    simp only [fault?_mapError, fault?_map, hm.fault?_argumentsClass]
    rw [← Function.comp_def, ← List.map_findSome?, findSome?_calledFields]
    rfl

end Items

/-! ## Runs -/

section Run

variable {g : Generator}

theorem Generator.fault?_fragments (ho : g.options.Usable) (s : Schema) :
    fault? (g.fragments s) = s.definitions.findSome? (·.fault? g.options s.registry) := by
  obtain ⟨m, hbuilt, hm⟩ := ho.typeMap s.registry
  rw [Generator.fragments, fault?_map, fault?_mapM]
  congr 1
  funext d
  rw [Generator.definition, Generator.typeMap, hbuilt, ← hm.fault?_items ho d]
  exact fault?_map _ _

/-- A run fails where a definition has no fragment. -/
theorem Generator.fault?_run_fragments (ho : g.options.Usable) (s : Schema) :
    fault? (g.run s) = fault? (g.fragments s) := by
  obtain ⟨ns, hns, -⟩ := ho.resolveNamespace
  obtain ⟨ofOptions, hwarnings⟩ := ho.warnings
  obtain ⟨m, hbuilt, -⟩ := ho.typeMap s.registry
  rw [Generator.run, hns, Generator.warnings, hwarnings, Generator.typeMap, hbuilt, Generator.code]
  cases hfragments : g.fragments s with
  | error fault => rfl
  | ok texts =>
    obtain ⟨text, hfile⟩ := ho.exists_file ("\n".intercalate texts)
    change fault? (Except.mapError _ (g.file _) >>= _) = _
    rw [hfile]
    rfl

/-- A run has the first fault of a definition, and no other. -/
theorem Options.Usable.fault?_run (ho : g.options.Usable) (s : Schema) :
    fault? (g.run s) = s.definitions.findSome? (·.fault? g.options s.registry) :=
  (g.fault?_run_fragments ho s).trans (g.fault?_fragments ho s)

theorem Generator.fault?_run (ho : g.options.Checked) (s : Schema) :
    fault? (g.run s) = s.definitions.findSome? (·.fault? g.options s.registry) :=
  ho.usable.fault?_run s

end Run

/-! ## Accepted texts -/

section Accepted

variable {o : Options} {case : NameCase} {r : Registry}

theorem Definition.fault?_eq_none_iff {d : Definition} :
    d.fault? o r = none ↔
      (d.kind = .enum → ∃ unit, o.indent = .ok unit) ∧ d.typeFault? o r = none := by
  rw [Definition.fault?, Option.or_eq_none_iff, Option.map_eq_none_iff, Option.map_eq_none_iff,
    Definition.indentFault?, ← fault?_eq_none]
  split
  · rename_i henum
    rw [forall_prop_of_true henum]
  · rename_i hother
    rw [forall_prop_of_false hother]
    exact and_congr_left fun _ => iff_of_true rfl trivial

theorem Definition.typeFault?_of_known (hcase : o.nameCase = .ok case) {d : Definition}
    (h : ∀ v ∈ d.inputValues, r.contains v.type.innermost = true) : d.typeFault? o r = none := by
  have hknown : r.firstUnknown? d.inputTypeNames = none := by
    rw [Registry.firstUnknown?, List.find?_eq_none]
    exact List.forall_mem_map.2 fun v hv => by simp [h v hv]
  rw [Definition.typeFault?, declarationFault?, hcase, fault?_ok, hknown]
  split <;> rfl

theorem Schema.value_known {sdl : String} {s : Schema} (hs : Schema.parse sdl = .ok s) :
    ∀ d ∈ s.definitions, ∀ v ∈ d.inputValues,
      s.registry.contains v.type.innermost = true := by
  obtain ⟨d, names, -, built⟩ := built_of_parse hs
  intro x hx v hv
  obtain ⟨kind, -, hkind⟩ := built.value_input hx hv
  rw [Registry.contains, Entries.has, ← Registry.kind?, hkind]
  rfl

/-- Over an accepted text a run with a naming convention fails only where an enum needs an
indentation that has no text. -/
theorem Generator.exists_run_ok_iff (ho : o.Checked) (hcase : o.nameCase = .ok case)
    {sdl : String} {s : Schema} (hs : Schema.parse sdl = .ok s) :
    (∃ generated, Generator.run { options := o } s = .ok generated) ↔
      (∃ unit, o.indent = .ok unit) ∨ ∀ d ∈ s.definitions, d.kind ≠ .enum := by
  have hfault : ∀ d ∈ s.definitions, (d.fault? o s.registry = none ↔
      (d.kind = .enum → ∃ unit, o.indent = .ok unit)) := by
    intro d hd
    rw [Definition.fault?_eq_none_iff,
      Definition.typeFault?_of_known hcase (Schema.value_known hs d hd)]
    exact and_iff_left rfl
  rw [← fault?_eq_none, Generator.fault?_run (g := { options := o }) ho s,
    List.findSome?_eq_none_iff]
  constructor
  · intro h
    by_cases hunit : ∃ unit, o.indent = .ok unit
    · exact Or.inl hunit
    · exact Or.inr fun d hd henum => hunit ((hfault d hd).1 (h d hd) henum)
  · intro h d hd
    refine (hfault d hd).2 fun henum => ?_
    rcases h with hunit | hnone
    · exact hunit
    · exact absurd henum (hnone d hd)

end Accepted

end SdlPhp
