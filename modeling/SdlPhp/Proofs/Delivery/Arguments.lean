import SdlPhp.Delivery.Command
import SdlPhp.Proofs.Generation.Parts

/-!
# Options of a command line

What the flags of a command line make of checked options: the options that result are usable
(`usable_apply`), and they result unless an item of a flag is no assignment of a value to a key, or
a key names no value of an enum. Of these faults only an empty list in the place of an assignment
has no message (`fails_apply_iff`).
-/

namespace SdlPhp

open Attempt Php

namespace Arguments

variable {a : Arguments} {base o : Options} {f : Flag} {items : List (Given String)}

/-! ## Assignments -/

/-- The item gives a value to a key. -/
def IsAssignment (item : Given String) : Prop :=
  ∃ text entry, item = .value text ∧ assignment? text = some entry

/-- Behind nothing but assignments an empty list stands in the place of one. -/
def UntoldItems (items : List (Given String)) : Prop :=
  ∃ before after, items = before ++ .emptyList :: after ∧ ∀ item ∈ before, IsAssignment item

/-- Why an item is no assignment. -/
def itemFault? (f : Flag) : Given String → Option CommandFault
  | .emptyList => some (.emptyItem f)
  | .value text => if (assignment? text).isSome then none else some (.assignment f text)

theorem itemFault?_eq_none_iff {item : Given String} :
    itemFault? f item = none ↔ IsAssignment item := by
  cases item with
  | emptyList => simp [itemFault?, IsAssignment]
  | value text => simp [itemFault?, IsAssignment, Option.isSome_iff_exists]

theorem isUntold_itemFault? {item : Given String} {fault : CommandFault}
    (h : itemFault? f item = some fault) : Command.isUntold fault = true ↔ item = .emptyList := by
  cases item with
  | emptyList =>
    cases h
    simp [Command.isUntold]
  | value text =>
    rw [itemFault?, Option.ite_none_left_eq_some] at h
    obtain ⟨-, ⟨⟩⟩ := h
    simp [Command.isUntold]

theorem fault?_assignments (f : Flag) (items : List (Given String)) :
    fault? (assignments f items) = items.findSome? (itemFault? f) := by
  refine fault?_foldlM (fun t item => ?_) items []
  cases item with
  | emptyList => rfl
  | value text => cases h : assignment? text <;> simp [itemFault?, h]

theorem exists_assignments_iff :
    (∃ t, assignments f items = .ok t) ↔ ∀ item ∈ items, IsAssignment item := by
  simp only [← fault?_eq_none, fault?_assignments, List.findSome?_eq_none_iff,
    itemFault?_eq_none_iff]

theorem fails_assignments_iff :
    Fails Command.isUntold (assignments f items) ↔ UntoldItems items := by
  rw [fails_iff_fault?, fault?_assignments]
  simp only [List.findSome?_eq_some_iff, itemFault?_eq_none_iff]
  constructor
  · rintro ⟨fault, ⟨before, item, after, hitems, hitem, hbefore⟩, huntold⟩
    have := (isUntold_itemFault? hitem).1 huntold
    subst this
    exact ⟨before, after, hitems, hbefore⟩
  · rintro ⟨before, after, hitems, hbefore⟩
    exact ⟨.emptyItem f, ⟨before, .emptyList, after, hitems, rfl, hbefore⟩, rfl⟩

/-! ## Flags over options -/

/-- Keys that name no value of an enum are told. -/
theorem not_fails_putLiterals (t : Entries (Entries String)) (literals : Entries String) :
    ¬ Fails Command.isUntold (putLiterals t literals) := by
  refine not_fails_foldlM (fun t e => ?_) literals t
  dsimp only
  cases enumKey? e.1 <;> simp [Command.isUntold]

theorem fails_apply_iff :
    Fails Command.isUntold (a.apply base) ↔
      UntoldItems a.scalars ∨
        (∀ item ∈ a.scalars, IsAssignment item) ∧ UntoldItems a.enumValues := by
  unfold apply
  rw [fails_bind, fails_assignments_iff]
  refine or_congr_right ?_
  rw [← exists_assignments_iff (f := .scalar), ← exists_and_right]
  refine exists_congr fun scalars => and_congr_right fun _ => ?_
  rw [fails_bind, fails_assignments_iff, or_iff_left]
  rintro ⟨literals, -, h⟩
  rw [fails_bind_pure] at h
  cases henum : base.enumValues with
  | value overrides =>
    rw [henum] at h
    exact not_fails_putLiterals overrides literals (fails_map.1 h)
  | other v =>
    rw [henum] at h
    exact not_fails_ok _ h

/-! ## The options that result -/

/-- What is imported can be listed, also with an empty list among it. -/
theorem exists_importsOf (himports : base.imports.IsValue)
    (h : o.imports = a.allImports base.imports) :
    ∃ imports, SourceFile.importsOf o = .ok imports := by
  obtain ⟨names, hnames⟩ := himports
  cases hmore : a.imports.mapM Given.value? <;>
    simp [SourceFile.importsOf, h, hnames, allImports, hmore, Json.items, Except.map,
      Except.mapError]

/-- A prefix for members that is an empty list makes for no warning. -/
theorem exists_prefixWarnings (hmembers : base.membersPrefix.IsValue)
    (h : o.membersPrefix = (a.membersPrefix.map Given.setting).getD base.membersPrefix) :
    ∃ ws, o.prefixWarnings = .ok ws := by
  obtain ⟨text, htext⟩ := hmembers
  rw [Options.prefixWarnings, h, htext]
  rcases a.membersPrefix with _ | _ | _ <;> exact ⟨_, rfl⟩

theorem isValue_getD {α β : Type} {f : α → β} {given : Option α} {s : Setting β}
    (h : s.IsValue) : ((given.map (.value ∘ f)).getD s).IsValue := by
  cases given with
  | none => exact h
  | some v => exact Setting.isValue_value (f v)

/-- Flags keep checked options usable. -/
theorem usable_apply (hbase : base.Checked) (h : a.apply base = .ok o) : o.Usable := by
  obtain ⟨scalars, -, h⟩ := bind_eq_ok.1 h
  obtain ⟨literals, -, h⟩ := bind_eq_ok.1 h
  obtain ⟨enumValues, henum, h⟩ := bind_eq_ok.1 h
  have henum : enumValues.IsValue := by
    obtain ⟨overrides, hoverrides⟩ := hbase.enumValues
    rw [hoverrides] at henum
    obtain ⟨t, -, rfl⟩ := map_eq_ok.1 henum
    exact Setting.isValue_value t
  rw [← pure_eq_ok.1 h]
  exact {
    outputFile := isValue_getD hbase.outputFile
    phpNamespace := isValue_getD hbase.phpNamespace
    namingConvention := isValue_getD (f := id) hbase.namingConvention
    scalars := hbase.scalars.map _
    enumValues := henum
    imports := exists_importsOf hbase.imports rfl
    membersPrefix := exists_prefixWarnings hbase.membersPrefix rfl }

end Arguments

end SdlPhp
