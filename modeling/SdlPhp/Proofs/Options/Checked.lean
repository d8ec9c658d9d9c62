import SdlPhp.Options.File
import SdlPhp.Proofs.Attempt

/-!
# Checked options

Options that are loaded from layers hold a value of the right kind in every place: the layer that is
merged from defaults, file and overrides is looked through as a whole, and what it does not set
keeps a default. Main statement: `load_checked`.
-/

namespace SdlPhp

open Attempt

/-! ## Settings of the right kind -/

/-- The setting is a value of the kind of its option. -/
def Setting.IsValue {α : Type} (s : Setting α) : Prop := ∃ a, s = .value a

theorem Setting.isValue_value {α : Type} (a : α) : (Setting.value a).IsValue := ⟨a, rfl⟩

theorem Setting.isValue_ofJson {α : Type} [OptionKind α] {v : Json} (h : v.isOf α = true) :
    (Setting.ofJson v : Setting α).IsValue := by
  obtain ⟨a, ha⟩ := Option.isSome_iff_exists.1 h
  exact ⟨a, by rw [Setting.ofJson, ha]⟩

theorem Setting.IsValue.map {α : Type} {s : Setting α} (h : s.IsValue) (f : α → α) :
    (s.map f).IsValue := by
  obtain ⟨a, rfl⟩ := h
  exact ⟨f a, rfl⟩

namespace Options

/-- Every option has a value of its kind. -/
structure Checked (o : Options) : Prop where
  outputFile : o.outputFile.IsValue
  phpNamespace : o.phpNamespace.IsValue
  imports : o.imports.IsValue
  openTag : o.openTag.IsValue
  indentSize : o.indentSize.IsValue
  useTabs : o.useTabs.IsValue
  addComments : o.addComments.IsValue
  namingConvention : o.namingConvention.IsValue
  typesPrefix : o.typesPrefix.IsValue
  scalars : o.scalars.IsValue
  listType : o.listType.IsValue
  enumValues : o.enumValues.IsValue
  membersPrefix : o.membersPrefix.IsValue
  custom : o.custom.IsValue

/-! ## Setting options -/

theorem checked_default : Checked {} := by
  constructor <;> exact Setting.isValue_value _

/-- The value may stand under the key: it has the shape of the option, if there is one. -/
def Fitting (key : String) (v : Json) : Prop :=
  ∀ shape, shapeOf? key = some shape → v.fits shape = true

variable {o : Options}

/-- A fitting value keeps the options checked, whichever of them it sets. -/
theorem Checked.set (h : o.Checked) {key : String} {v : Json} (hv : Fitting key v) :
    (o.set key v).Checked := by
  unfold Fitting at hv
  unfold Options.set
  split
  · exact { h with outputFile := Setting.isValue_ofJson (hv .textOrNull rfl) }
  · exact { h with phpNamespace := Setting.isValue_ofJson (hv .textOrNull rfl) }
  · exact { h with imports := Setting.isValue_ofJson (hv .texts rfl) }
  · exact { h with openTag := Setting.isValue_ofJson (hv .flag rfl) }
  · exact { h with indentSize := Setting.isValue_ofJson (hv .integer rfl) }
  · exact { h with useTabs := Setting.isValue_ofJson (hv .flag rfl) }
  · exact { h with addComments := Setting.isValue_ofJson (hv .flag rfl) }
  · exact { h with namingConvention := Setting.isValue_ofJson (hv .text rfl) }
  · exact { h with typesPrefix := Setting.isValue_ofJson (hv .text rfl) }
  · exact { h with scalars := Setting.isValue_ofJson (hv .scalarMap rfl) }
  · exact { h with listType := Setting.isValue_ofJson (hv .text rfl) }
  · exact { h with enumValues := Setting.isValue_ofJson (hv .overrideMap rfl) }
  · exact { h with membersPrefix := Setting.isValue_ofJson (hv .text rfl) }
  · exact { h with custom := Setting.isValue_ofJson (hv .object rfl) }
  · exact h

theorem Checked.setAll (h : o.Checked) {entries : Layer} (he : ∀ e ∈ entries, Fitting e.1 e.2) :
    (o.setAll entries).Checked := by
  induction entries generalizing o with
  | nil => exact h
  | cons e entries ih =>
    rw [List.forall_mem_cons] at he
    exact ih (h.set he.1) he.2

/-! ## Layers -/

theorem fitting_of_firstFault? {layer : Layer} {room : Option Nat}
    (h : firstFault? layer room = none) :
    ∀ e ∈ layer, Fitting e.1 e.2 := by
  rintro ⟨key, v⟩ he shape hshape
  have hnone := List.findSome?_eq_none_iff.1 h (key, v) he
  simp only [hshape] at hnone
  by_contra hmisfit
  rw [if_neg hmisfit] at hnone
  cases hnone

theorem ofLayer_checked {layer : Layer} {room : Option Nat} (h : ofLayer layer room = .ok o) :
    o.Checked := by
  rw [ofLayer] at h
  cases hfault : firstFault? layer room with
  | some fault => simp [hfault] at h
  | none =>
    rw [hfault] at h
    cases h
    have base : (Options.setAll {} (known layer)).Checked :=
      checked_default.setAll fun e he => fitting_of_firstFault? hfault e (List.mem_filter.1 he).1
    exact { base with custom := base.custom.map _ }

/-- Options that could be loaded are checked. -/
theorem load_checked {w : World} {defaults overrides : Layer} {file : Option String}
    {room : Option Nat} (h : load w defaults overrides file room = .ok o) : o.Checked := by
  rw [load] at h
  split at h
  · obtain ⟨fromFile, -, h⟩ := bind_eq_ok.1 h
    exact ofLayer_checked (mapError_eq_ok.1 h)
  · obtain ⟨fromFile, -, h⟩ := bind_eq_ok.1 h
    exact ofLayer_checked (mapError_eq_ok.1 h)

end Options

end SdlPhp
