import SdlPhp.Generation.Result
import SdlPhp.Proofs.Options.Checked

/-!
# Parts of a run

What the parts of a run give under usable options: none of them fails for a value of the wrong kind,
so that only unknown types, the naming convention and the indentation are left as faults. Checked
options are usable.
-/

namespace SdlPhp

open Attempt Php

variable {o : Options}

/-! ## Usable options -/

/-- What a run looks into is of the kind of its option, or is of use all the same. The prefixes and
the size of the indentation may be anything, as they are only put into texts or asked for later. -/
structure Options.Usable (o : Options) : Prop where
  outputFile : o.outputFile.IsValue
  phpNamespace : o.phpNamespace.IsValue
  namingConvention : o.namingConvention.IsValue
  scalars : o.scalars.IsValue
  enumValues : o.enumValues.IsValue
  imports : ∃ names, SourceFile.importsOf o = .ok names
  membersPrefix : ∃ ws, o.prefixWarnings = .ok ws

theorem Options.Checked.usable (h : o.Checked) : o.Usable where
  outputFile := h.outputFile
  phpNamespace := h.phpNamespace
  namingConvention := h.namingConvention
  scalars := h.scalars
  enumValues := h.enumValues
  imports := by
    obtain ⟨imports, himports⟩ := h.imports
    exact ⟨imports, by rw [SourceFile.importsOf, himports]⟩
  membersPrefix := by
    obtain ⟨membersPrefix, hmembers⟩ := h.membersPrefix
    exact ⟨_, by rw [Options.prefixWarnings, hmembers]⟩

/-! ## Namespace and file -/

/-- The namespace is the one of the options or that of some directory. -/
theorem Options.Usable.resolveNamespace (h : o.Usable) :
    ∃ ns : String, Php.resolveNamespace o = .ok (.value ns) ∧
      (o.phpNamespace = .value (some ns) ∨ ∃ directory, ns = namespaceOfDirectory directory) := by
  obtain ⟨given, hgiven⟩ := h.phpNamespace
  obtain ⟨file, hfile⟩ := h.outputFile
  rw [Php.resolveNamespace, givenNamespace?, derivedNamespace, hgiven, hfile]
  dsimp only
  cases hns : given.filter (!·.isEmpty) with
  | some ns => exact ⟨ns, rfl, Or.inl (by rw [(Option.filter_eq_some_iff.1 hns).1])⟩
  | none =>
    cases file.filter (!·.isEmpty) with
    | some file => exact ⟨_, rfl, Or.inr ⟨_, rfl⟩⟩
    | none => exact ⟨_, rfl, Or.inr ⟨"", namespaceOfDirectory_empty.symm⟩⟩

/-- There is a file around every body. -/
theorem Options.Usable.exists_file {g : Generator} (h : g.options.Usable) (body : String) :
    ∃ text, g.file body = .ok text := by
  obtain ⟨ns, hns, -⟩ := h.resolveNamespace
  obtain ⟨imports, himports⟩ := h.imports
  rw [Generator.file, SourceFile.ofBody, hns, himports]
  exact ⟨_, rfl⟩

/-- The file around a body. -/
theorem Options.Checked.ofBody (h : o.Checked) {ns : String}
    (hns : Php.resolveNamespace o = .ok (.value ns)) (body : String) :
    ∃ imports, o.imports = .value imports ∧
      SourceFile.ofBody o body = .ok
        { openTag := o.openTag.isTrue
          phpNamespace := ns
          imports
          body := String.ofList (Text.dropTrailing '\n' body.toList) } := by
  obtain ⟨imports, himports⟩ := h.imports
  refine ⟨imports, himports, ?_⟩
  rw [SourceFile.ofBody, hns, SourceFile.importsOf, himports]
  rfl

/-! ## Warnings -/

theorem Options.Usable.warnings (h : o.Usable) : ∃ ws, o.warnings = .ok ws := by
  obtain ⟨convention, hconvention⟩ := h.namingConvention
  obtain ⟨ns, hns⟩ := h.phpNamespace
  obtain ⟨ofPrefix, hmembers⟩ := h.membersPrefix
  obtain ⟨overrides, hoverrides⟩ := h.enumValues
  have hwarned : ∃ ws, o.conventionWarnings = .ok ws := by
    rw [Options.conventionWarnings, hconvention]
    cases o.nameCase with
    | ok case => exact ⟨_, rfl⟩
    | error fault => exact ⟨_, rfl⟩
  obtain ⟨ws, hws⟩ := hwarned
  rw [Options.warnings, hws, Options.namespaceWarnings, hns, hmembers, Options.overrideWarnings,
    hoverrides]
  exact ⟨_, rfl⟩

/-! ## Tables -/

section Tables

variable {α β : Type}

theorem KeyTable.textEntries_ofEntries (t : Entries α) :
    (KeyTable.ofEntries t).textEntries = t := by
  induction t with
  | nil => rfl
  | cons e t ih => exact congrArg (List.cons e) ih

/-- Under texts a table is updated like a table of texts. -/
theorem KeyTable.textEntries_update (t : KeyTable α) (u : Entries α) :
    (t.update (KeyTable.ofEntries u)).textEntries = Entries.update t.textEntries u := by
  induction u generalizing t with
  | nil => rfl
  | cons e u ih =>
    have := ih (t.put (.text e.1) e.2)
    rw [KeyTable.textEntries_put_text] at this
    exact this

theorem Entries.get?_mapValues (f : α → β) (t : Entries α) (key : String) :
    Entries.get? (t.mapValues f) key = (t.get? key).map f := by
  induction t with
  | nil => rfl
  | cons e t ih =>
    rw [Entries.mapValues, List.map_cons, Entries.get?, Entries.get?]
    split
    · rfl
    · exact ih

theorem Entries.mapValues_put (f : α → β) (t : Entries α) (key : String) (value : α) :
    (Entries.put t key value).mapValues f = Entries.put (t.mapValues f) key (f value) := by
  induction t with
  | nil => rfl
  | cons e t ih =>
    rw [Entries.mapValues, Entries.mapValues, List.map_cons, Entries.put, Entries.put]
    split
    · rfl
    · exact congrArg _ ih

theorem Entries.mapValues_update (f : α → β) (t u : Entries α) :
    (Entries.update t u).mapValues f = Entries.update (t.mapValues f) (u.mapValues f) := by
  induction u generalizing t with
  | nil => rfl
  | cons e u ih =>
    have := ih (t.put e.1 e.2)
    rw [Entries.mapValues_put] at this
    exact this

end Tables

/-! ## Types -/

/-- The name of a scalar in a file, unless it has none of its own: that of the options, or else the
built-in one. -/
def Options.scalarName? (o : Options) (name : String) : Option String :=
  (Entries.update builtinScalars (o.scalars.value?.getD [])).get? name

/-- The type map is the one of a registry under options. -/
structure Php.TypeMap.IsFor (m : TypeMap) (r : Registry) (o : Options) : Prop where
  registry : m.registry = r
  options : m.options = o
  typeName : m.typeName = o.typeName
  scalars : ∀ name, m.scalars.get? name = (o.scalarName? name).map .value

theorem Options.Usable.typeMap (h : o.Usable) (r : Registry) :
    ∃ m, TypeMap.ofOptions r o = .ok m ∧ m.IsFor r o := by
  obtain ⟨table, htable⟩ := h.scalars
  have hbuilt : TypeMap.ofOptions r o = .ok
      { registry := r
        options := o
        scalars := ((KeyTable.ofEntries (builtinScalars.mapValues .value)).update
          (KeyTable.ofEntries (table.mapValues .value))).textEntries } := by
    rw [TypeMap.ofOptions, scalarTypes, htable]
    rfl
  refine ⟨_, hbuilt, ⟨rfl, rfl, rfl, fun name => ?_⟩⟩
  rw [KeyTable.textEntries_update, KeyTable.textEntries_ofEntries, ← Entries.mapValues_update,
    Entries.get?_mapValues, Options.scalarName?, htable]
  rfl

/-- The literal for a value of an enum: the one of the options unless it is empty, or else the name
of the value. -/
def Options.literal (o : Options) (enum value : String) : String :=
  let literal? := (o.enumValues.value?.bind (·.get? enum)).bind (·.get? value)
  (literal?.filter (!·.isEmpty)).getD value

theorem Options.Usable.caseName (h : o.Usable) (enum value : String) :
    Php.caseName o enum value = .ok (ReservedWords.caseNames.escape (o.literal enum value)) := by
  obtain ⟨overrides, hoverrides⟩ := h.enumValues
  rw [Php.caseName, enumLiteral, Options.enumLiteral?, Options.literal, hoverrides]
  simp only [Setting.value?, Option.bind_some]
  cases ((overrides.get? enum).bind (·.get? value)).filter (!·.isEmpty) with
  | some literal => rfl
  | none => rfl

end SdlPhp
