import SdlPhp.Proofs.Generation.Parts

/-!
# Declared items

What a definition makes a file declare, as a value of the options, the naming convention and the
registry. Where the items of a definition can be made at all, they are these (`items_ok`), and
so the code of a run is the file around their texts (`code_of_run_ok`).
-/

namespace SdlPhp

open Attempt Php
open Php.TypeMap (calledFields)

/-! ## Names and types -/

section Spec

variable (o : Options) (case : NameCase) (r : Registry)

namespace Options

/-- The name of an enum in a file. -/
def phpName (name : String) : String := o.typesPrefix.text ++ Naming.convert case name

/-- The name of the class for an input object. -/
def phpInputName (name : String) : String := Naming.withSuffix (o.phpName case name) "Input"

/-- The name of the class for the arguments of a field. -/
def phpArgsName (type field : String) : String :=
  o.phpName case type ++ Naming.convert case field ++ "Args"

/-- The type of a value in a file: what its innermost name stands for, unless it is in a list. -/
def phpType (t : TypeRef) : String :=
  if t.hasList then o.listType.text
  else
    match r.kind? t.innermost with
    | some .scalar => (o.scalarName? t.innermost).getD fallbackName
    | some .inputObject => o.phpInputName case t.innermost
    | some .enum => o.phpName case t.innermost
    | _ => fallbackName

def parameter (v : InputValue) : Parameter := ⟨o.phpType case r v.type, v.name⟩

/-- The text of one level of indentation, if there is one. -/
def indentText : String :=
  match o.indent with
  | .ok unit => unit
  | .error _ => ""

end Options

namespace Definition

/-- What a definition makes a file declare. -/
def items : Definition → List Item
  | enum name values description =>
    [.enumeration
      { name := o.phpName case name
        cases := values.map fun v => ReservedWords.caseNames.escape (o.literal name v.name)
        indent := o.indentText
        description }]
  | input name fields _ =>
    [.dataClass ⟨o.phpInputName case name, fields.map (o.parameter case r)⟩]
  | object name fields _ =>
    (calledFields fields).map fun f =>
      .dataClass ⟨o.phpArgsName case name f.name, f.arguments.map (o.parameter case r)⟩

end Definition

end Spec

/-- The type of a scalar with this name in a file. -/
def Php.ownType (name : String) : PhpType :=
  { base := .value name, name := .value name, isScalar := true }

/-! ## Items that can be made -/

section Made

variable {m : TypeMap} {r : Registry} {o : Options} {case : NameCase}

theorem Php.TypeMap.IsFor.name_eq (hm : m.IsFor r o) (hcase : o.nameCase = .ok case)
    (name : String) : m.name name = .ok (o.phpName case name) := by
  rw [TypeMap.name, hm.typeName, Options.typeName, hcase]
  rfl

theorem Php.TypeMap.IsFor.inputName_eq (hm : m.IsFor r o) (hcase : o.nameCase = .ok case)
    (name : String) : m.inputName name = .ok (o.phpInputName case name) := by
  rw [TypeMap.inputName, hm.name_eq hcase]
  rfl

theorem Php.TypeMap.IsFor.fieldName_eq (hm : m.IsFor r o) (hcase : o.nameCase = .ok case)
    (name : String) : m.fieldName name = .ok (Naming.convert case name) := by
  rw [TypeMap.fieldName, hm.options, hcase]
  rfl

theorem Php.TypeMap.IsFor.scalarType_eq_getD (hm : m.IsFor r o) (name : String) :
    m.scalarType name = ((o.scalarName? name).map ownType).getD fallbackType := by
  rw [TypeMap.scalarType, hm.scalars]
  cases o.scalarName? name with
  | none => rfl
  | some type => rfl

theorem Php.TypeMap.IsFor.scalarType_eq (hm : m.IsFor r o) (name : String) :
    (m.scalarType name).name = .value ((o.scalarName? name).getD fallbackName) := by
  rw [hm.scalarType_eq_getD]
  cases o.scalarName? name with
  | none => rfl
  | some type => rfl

theorem Php.TypeMap.IsFor.resolve_ok (hm : m.IsFor r o) (hcase : o.nameCase = .ok case)
    {t : TypeRef} {p : PhpType} (h : m.resolve t = .ok p) : p.name.text = o.phpType case r t := by
  obtain ⟨q, hq, rfl⟩ := map_eq_ok.1 h
  rw [Options.phpType]
  split
  · rw [hm.options]
  · rw [TypeMap.baseType, hm.registry] at hq
    cases hkind : r.kind? t.innermost with
    | none => simp [hkind] at hq
    | some kind =>
      rw [hkind] at hq
      cases kind with
      | scalar =>
        cases hq
        rw [hm.scalarType_eq]
        rfl
      | inputObject =>
        simp only [hm.inputName_eq hcase] at hq
        cases hq
        rfl
      | enum =>
        simp only [hm.name_eq hcase] at hq
        cases hq
        rfl
      | object => cases hq; rfl
      | interface => cases hq; rfl
      | union => cases hq; rfl

theorem Php.TypeMap.IsFor.parameter_ok (hm : m.IsFor r o) (hcase : o.nameCase = .ok case)
    {v : InputValue} {p : Parameter} (h : m.parameter v = .ok p) : p = o.parameter case r v := by
  obtain ⟨type, htype, h⟩ := bind_eq_ok.1 h
  rw [← pure_eq_ok.1 h, Options.parameter, hm.resolve_ok hcase htype]

theorem Php.TypeMap.IsFor.dataClass_ok (hm : m.IsFor r o) (hcase : o.nameCase = .ok case)
    {name : String} {values : List InputValue} {c : DataClass}
    (h : m.dataClass name values = .ok c) : c = ⟨name, values.map (o.parameter case r)⟩ := by
  obtain ⟨ps, hps, h⟩ := bind_eq_ok.1 h
  rw [← pure_eq_ok.1 h, eq_map_of_mapM_eq_ok hps fun v _ p hp => hm.parameter_ok hcase hp]

/-- The items of a definition, where they can be made. -/
theorem Php.TypeMap.IsFor.items_ok (hm : m.IsFor r o) (ho : o.Checked)
    (hcase : o.nameCase = .ok case) {d : Definition} {items : List Item}
    (h : m.items d = .ok items) : items = d.items o case r := by
  cases d with
  | enum name values description =>
    obtain ⟨e, he, h⟩ := bind_eq_ok.1 h
    obtain ⟨cases, hcases, he⟩ := bind_eq_ok.1 he
    obtain ⟨unit, hunit, he⟩ := bind_eq_ok.1 he
    obtain ⟨n, hn, he⟩ := bind_eq_ok.1 he
    rw [hm.options, mapError_eq_ok] at hunit
    rw [mapError_eq_ok, hm.name_eq hcase] at hn
    have hliterals := eq_map_of_mapM_eq_ok (mapError_eq_ok.1 hcases)
      (g := fun v => ReservedWords.caseNames.escape (o.literal name v.name)) (by
        intro v _ c hc
        rw [hm.options, ho.usable.caseName] at hc
        exact (Except.ok.inj hc).symm)
    rw [← pure_eq_ok.1 h, ← pure_eq_ok.1 he, hliterals, ← Except.ok.inj hn, Definition.items,
      Options.indentText, hunit]
  | input name fields description =>
    obtain ⟨c, hc, h⟩ := bind_eq_ok.1 h
    obtain ⟨n, hn, hc⟩ := bind_eq_ok.1 (mapError_eq_ok.1 hc)
    rw [hm.inputName_eq hcase] at hn
    rw [← pure_eq_ok.1 h, hm.dataClass_ok hcase hc, ← Except.ok.inj hn, Definition.items]
  | object name fields description =>
    refine eq_map_of_mapM_eq_ok h fun f _ i hi => ?_
    obtain ⟨c, hc, rfl⟩ := map_eq_ok.1 (mapError_eq_ok.1 hi)
    rw [TypeMap.argumentsClass, hm.name_eq hcase, hm.fieldName_eq hcase] at hc
    rw [hm.dataClass_ok hcase hc, Options.phpArgsName]

end Made

/-! ## Code -/

section Code

variable {o : Options} {case : NameCase} {s : Schema}

/-- The text of a definition, unless it declares nothing. -/
def Definition.text? (o : Options) (case : NameCase) (r : Registry) (d : Definition) :
    Option String :=
  if (d.items o case r).isEmpty then none
  else some ("\n".intercalate ((d.items o case r).map (Item.text o)))

/-- The text of all that a schema makes a file declare. -/
def Schema.body (o : Options) (case : NameCase) (s : Schema) : String :=
  "\n".intercalate (s.definitions.filterMap (·.text? o case s.registry))

theorem Generator.fragments_ok (ho : o.Checked) (hcase : o.nameCase = .ok case)
    {texts : List String} (h : Generator.fragments { options := o } s = .ok texts) :
    texts = s.definitions.filterMap (·.text? o case s.registry) := by
  obtain ⟨m, hbuilt, hm⟩ := ho.usable.typeMap s.registry
  obtain ⟨found, hfound, rfl⟩ := map_eq_ok.1 h
  have htext : ∀ d ∈ s.definitions, ∀ t, Generator.definition { options := o } s d = .ok t →
      t = d.text? o case s.registry := by
    intro d _ t ht
    rw [Generator.definition, Generator.typeMap, hbuilt] at ht
    obtain ⟨items, hitems, rfl⟩ := map_eq_ok.1 ht
    rw [hm.items_ok ho hcase hitems, hm.options, Definition.text?]
  rw [eq_map_of_mapM_eq_ok hfound htext, List.filterMap_map]
  rfl

/-- The code of a run is the file around the texts of all that is declared. -/
theorem Generator.code_of_run_ok (ho : o.Checked) (hcase : o.nameCase = .ok case)
    {generated : Generated} (h : Generator.run { options := o } s = .ok generated) :
    ∃ f : SourceFile, generated.code = f.text true ∧
      resolveNamespace o = .ok (.value f.phpNamespace) ∧ o.imports = .value f.imports ∧
      f.body = String.ofList (Text.dropTrailing '\n' (s.body o case).toList) := by
  obtain ⟨ns, hns, h⟩ := bind_eq_ok.1 h
  obtain ⟨warnings, -, h⟩ := bind_eq_ok.1 h
  obtain ⟨code, hcode, h⟩ := bind_eq_ok.1 h
  obtain ⟨texts, htexts, hcode⟩ := bind_eq_ok.1 hcode
  obtain ⟨f, hf, hcode⟩ := map_eq_ok.1 (mapError_eq_ok.1 hcode)
  obtain ⟨name, hname, -⟩ := ho.usable.resolveNamespace
  obtain ⟨imports, himports, hfile⟩ := ho.ofBody hname ("\n".intercalate texts)
  rw [Generator.fragments_ok ho hcase htexts] at hfile hf
  cases hf.symm.trans hfile
  rw [← pure_eq_ok.1 h, ← hcode]
  exact ⟨_, rfl, hname, himports, rfl⟩

end Code

end SdlPhp
