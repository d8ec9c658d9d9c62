import SdlPhp.Proofs.Entries
import SdlPhp.Proofs.Generation.Items
import SdlPhp.Proofs.Generation.Warnings

/-!
# Views of the scalars

The types of scalars are looked up in four places: where a reference is resolved, in the table that is
shown, in the list of scalars without a type, and in the warnings of a run. All of them go by one
table, that of the options over the built-in one (`Options.scalarName?`), and so they agree
(`scalar_views_agree`): it counts whether a scalar has an entry, not what the entry is.
-/

namespace SdlPhp

open Attempt Php

/-! ## Entries of the table -/

/-- A table with a value for each of some keys. -/
theorem Entries.get?_map_of_mem {α : Type} (f : String → α) {names : List String} {name : String}
    (h : name ∈ names) : get? (names.map fun n => (n, f n)) name = some (f name) := by
  induction names with
  | nil => cases h
  | cons n names ih =>
    rw [List.map_cons, get?]
    split
    · rename_i heq
      rw [heq]
    · rename_i hne
      exact ih ((List.mem_cons.1 h).resolve_left (Ne.symm hne))

theorem Entries.keys_map {α : Type} (f : String → α) (names : List String) :
    keys (names.map fun n => (n, f n)) = names := by
  rw [keys, List.map_map]
  exact List.map_id names

theorem Registry.nodup_names_ofPairs (pairs : List (String × TypeKind)) :
    (Registry.ofPairs pairs).names.Nodup :=
  Entries.nodup_keys_update (t := []) List.nodup_nil pairs

theorem Registry.kind?_of_mem_scalars {r : Registry} {name : String} (h : name ∈ r.scalars) :
    r.kind? name = some .scalar :=
  beq_iff_eq.1 (List.mem_filter.1 h).2

theorem Options.scalarName?_eq_none_iff {o : Options} {configured : Entries String}
    (h : o.scalars = .value configured) {name : String} :
    o.scalarName? name = none ↔
      name ∉ Entries.keys builtinScalars ∧ name ∉ Entries.keys configured := by
  rw [scalarName?, h, Setting.value?, Option.getD_some, Entries.get?_eq_none_iff,
    Entries.mem_keys_update, not_or]

namespace Php

/-- The views of some scalars agree, where these are configured. -/
structure TypeMap.Agrees (m : TypeMap) (scalars : List String) (configured : Entries String) :
    Prop where
  /-- The table lists the scalars, in their order. -/
  listed : Entries.keys m.scalarTable = scalars
  once : scalars.Nodup
  /-- What the table has for a scalar is what a reference to it is resolved to. -/
  resolved : ∀ name ∈ scalars, ∃ p, m.resolve (.named name) = .ok p ∧
    Entries.get? m.scalarTable name = some p.name
  unmapped : m.unmappedScalars = scalars.filter fun name =>
    name ∉ Entries.keys builtinScalars ∧ name ∉ Entries.keys configured
  fallback : ∀ name ∈ m.unmappedScalars, m.resolve (.named name) = .ok fallbackType
  /-- All other scalars have the type of their entry, be it named like the fallback. -/
  own : ∀ name ∈ scalars, name ∉ m.unmappedScalars → ∃ type,
    m.options.scalarName? name = some type ∧ m.resolve (.named name) = .ok (ownType type)

namespace TypeMap

variable {m : TypeMap} {r : Registry} {o : Options}

theorem IsFor.has_scalars (hm : m.IsFor r o) (name : String) :
    m.scalars.has name = (o.scalarName? name).isSome := by
  rw [Entries.has, hm.scalars, Option.isSome_map]

theorem IsFor.mem_unmappedScalars (hm : m.IsFor r o) {name : String} :
    name ∈ m.unmappedScalars ↔ name ∈ r.scalars ∧ o.scalarName? name = none := by
  rw [unmappedScalars, hm.registry, List.mem_filter, hm.has_scalars, Bool.not_eq_true',
    Option.isSome_eq_false_iff, Option.isNone_iff_eq_none]

theorem IsFor.resolve_scalar (hm : m.IsFor r o) {name : String} (h : name ∈ r.scalars) :
    m.resolve (.named name) = .ok (m.scalarType name) := by
  have base : m.baseType name = .ok (m.scalarType name) := by
    rw [baseType, hm.registry, Registry.kind?_of_mem_scalars h]
  exact congrArg (Except.map _) base

theorem IsFor.getD_scalars (hm : m.IsFor r o) (name : String) :
    m.scalars.getD name fallbackType.name = (m.scalarType name).name := by
  refine (m.scalarType_name fun h => ?_).symm
  rw [hm.scalars, Option.map_eq_some_iff] at h
  obtain ⟨type, -, h⟩ := h
  cases h

theorem IsFor.agrees (hm : m.IsFor r o) (hr : r.names.Nodup) {configured : Entries String}
    (hscalars : o.scalars = .value configured) : m.Agrees r.scalars configured where
  listed := by
    rw [scalarTable, hm.registry]
    exact Entries.keys_map _ _
  once := hr.filter _
  resolved := by
    intro name hname
    refine ⟨_, hm.resolve_scalar hname, ?_⟩
    rw [scalarTable, hm.registry, Entries.get?_map_of_mem _ hname, hm.getD_scalars]
  unmapped := by
    rw [unmappedScalars, hm.registry]
    refine List.filter_congr fun name _ => Bool.eq_iff_iff.2 ?_
    rw [hm.has_scalars, Bool.not_eq_true', Option.isSome_eq_false_iff, Option.isNone_iff_eq_none,
      Options.scalarName?_eq_none_iff hscalars, decide_eq_true_iff]
  fallback := by
    intro name hname
    obtain ⟨hmem, hnone⟩ := hm.mem_unmappedScalars.1 hname
    rw [hm.resolve_scalar hmem, hm.scalarType_eq_getD, hnone]
    rfl
  own := by
    intro name hname hmapped
    rw [hm.mem_unmappedScalars, not_and] at hmapped
    obtain ⟨type, htype⟩ := Option.ne_none_iff_exists'.1 (hmapped hname)
    refine ⟨type, by rw [hm.options, htype], ?_⟩
    rw [hm.resolve_scalar hname, hm.scalarType_eq_getD, htype]
    rfl

end TypeMap

end Php

/-- For every registry all views of its scalars agree under loaded options, and a successful run
warns about the scalars without an entry, one after the other, and about no other one. -/
theorem scalar_views_agree {w : World} {defaults overrides : Layer} {file : Option String}
    {g : Generator} (hload : Options.load w defaults overrides file = .ok g.options)
    (pairs : List (String × TypeKind)) :
    let r := Registry.ofPairs pairs
    let scalars := r.names.filter fun name => r.kind? name = some .scalar
    ∃ m configured, TypeMap.ofOptions r g.options = .ok m ∧
      g.options.scalars = .value configured ∧ m.Agrees scalars configured ∧
      ∀ definitions result, g.generate ⟨definitions, r⟩ = .ok result → result.success = true →
        startingWith Generator.unmappedFront result.warnings =
          m.unmappedScalars.map Generator.unmappedWarning := by
  intro r scalars
  have checked := Options.load_checked hload
  obtain ⟨m, hbuilt, hm⟩ := checked.usable.typeMap r
  obtain ⟨configured, hscalars⟩ := checked.scalars
  have names : scalars = r.scalars := List.filter_congr fun name _ => by simp [beq_eq_decide]
  refine ⟨m, configured, hbuilt, hscalars, ?_, fun definitions result h success => ?_⟩
  · rw [names]
    exact hm.agrees (Registry.nodup_names_ofPairs pairs) hscalars
  · obtain ⟨other, hother, hwarnings⟩ := Generator.startingWith_unmappedFront checked h success
    rw [hwarnings, Except.ok.inj (hother.symm.trans hbuilt)]

/-- A scalar with the type of the fallback, one with the empty text, a built-in one with another type,
one without a type, and a type of another kind. -/
theorem scalar_views_agree_date :
    let kinds : List (String × TypeKind) :=
      [("Date", .scalar), ("Int", .scalar), ("E", .enum), ("URL", .scalar), ("X", .scalar)]
    let scalars : Layer := [("Date", .text "object"), ("X", .text ""), ("Int", .text "float")]
    ∃ (g : Generator) (m : TypeMap) (result : RunResult),
      Options.load {} Options.defaultLayer [("scalars", .object scalars)] none =
        .ok g.options ∧ TypeMap.ofOptions (Registry.ofPairs kinds) g.options = .ok m ∧
      Entries.keys m.scalarTable = ["Date", "Int", "URL", "X"] ∧ m.unmappedScalars = ["URL"] ∧
      g.generate ⟨[], Registry.ofPairs kinds⟩ = .ok result ∧ result.success = true ∧
      startingWith Generator.unmappedFront result.warnings =
        ["Scalar 'URL' has no PHP mapping - using object"] := by
  intro kinds scalars
  let configured : Entries String := [("Date", "object"), ("X", ""), ("Int", "float")]
  let g : Generator := { options := { scalars := .value configured } }
  have hload : Options.load {} Options.defaultLayer [("scalars", .object scalars)] none =
      .ok g.options := rfl
  have hruns : (g.generate ⟨[], Registry.ofPairs kinds⟩).toOption.map (·.success) = some true := by
    decide +kernel
  obtain ⟨result, hresult, success⟩ := exists_ok_of_map_toOption hruns
  obtain ⟨m, table, hbuilt, htable, hagrees, hwarnings⟩ := scalar_views_agree hload kinds
  cases htable
  have hunmapped : m.unmappedScalars = ["URL"] := hagrees.unmapped.trans (by decide)
  refine ⟨g, m, result, hload, hbuilt, hagrees.listed.trans (by decide), hunmapped, hresult,
    success, ?_⟩
  rw [hwarnings [] result hresult success, hunmapped]
  decide

end SdlPhp
