import SdlPhp.Proofs.Generation.Composition

/-!
# Warnings of a run

A run warns about empty definitions, about options, about scalars and about overrides, in this order
(`warnings_of_success`). No two of these kinds start alike, so that one of them can be picked out by
how it starts. The warnings about overrides are those for the names that the registry does not have.
Literals for a type that is no enum are of no use either, but are passed over: every useless override
is reported exactly where each name with literals is that of an enum or of no type at all
(`reportsOverrides_iff`).
-/

namespace SdlPhp

open Attempt Php

/-! ## Beginnings -/

/-- The texts that start with the given one. -/
def startingWith (front : String) (texts : List String) : List String :=
  texts.filter fun text => front.toList.isPrefixOf text.toList

variable {front : String} {c : Char} {texts : List String}

theorem startingWith_append (front : String) (texts others : List String) :
    startingWith front (texts ++ others) = startingWith front texts ++ startingWith front others :=
  List.filter_append ..

theorem startingWith_of_forall (h : ∀ text ∈ texts, ∃ back, text = front ++ back) :
    startingWith front texts = texts := by
  refine List.filter_eq_self.2 fun text htext => ?_
  obtain ⟨back, rfl⟩ := h text htext
  simp

theorem startingWith_of_head? (hfront : front.toList.head? = some c)
    (h : ∀ text ∈ texts, text.toList.head? ≠ some c) : startingWith front texts = [] := by
  refine List.filter_eq_nil_iff.2 fun text htext hprefix => h text htext ?_
  obtain ⟨back, hback⟩ := List.isPrefixOf_iff_prefix.1 hprefix
  rw [← hback, List.head?_append, hfront]
  rfl

theorem head?_append_text {text : String} (h : text.toList.head? = some c) (back : String) :
    (text ++ back).toList.head? = some c := by
  rw [String.toList_append, List.head?_append, h]
  rfl

/-! ## The kinds of warnings -/

namespace Generator

variable {g : Generator} {s : Schema} {result : RunResult}

/-- How the warnings about scalars start. -/
def unmappedFront : String := "Scalar '"

/-- How the warnings about overrides start. -/
def unknownEnumFront : String := "enum_values configured for unknown enum '"

theorem exists_unmappedWarning (scalar : String) :
    ∃ back, unmappedWarning scalar = unmappedFront ++ back :=
  ⟨scalar ++ "' has no PHP mapping - using object", String.append_assoc ..⟩

theorem unknownEnumWarning_eq (enum : String) :
    unknownEnumWarning enum = unknownEnumFront ++ (enum ++ "'") := String.append_assoc ..

theorem unknownEnumWarning_injective : Function.Injective unknownEnumWarning := by
  intro a b h
  simpa [unknownEnumWarning_eq] using h

theorem head?_emptyWarning {d : Definition} {text : String} (h : emptyWarning? d = some text) :
    text.toList.head? = some 'E' ∨ text.toList.head? = some 'T' := by
  cases d with
  | enum name values description =>
    obtain ⟨-, h⟩ := Option.ite_none_right_eq_some.1 h
    cases h
    exact .inl (head?_append_text (head?_append_text (by decide) _) _)
  | input name fields description =>
    obtain ⟨-, h⟩ := Option.ite_none_right_eq_some.1 h
    cases h
    exact .inr (head?_append_text (head?_append_text (by decide) _) _)
  | object name fields description =>
    obtain ⟨-, h⟩ := Option.ite_none_right_eq_some.1 h
    cases h
    exact .inr (head?_append_text (head?_append_text (by decide) _) _)

end Generator

namespace Options

variable {o : Options}

/-- Checked options have no overrides to warn about, and the other warnings about options start like
these. -/
theorem Checked.head?_warnings (h : o.Checked) {ws : List String} (hws : o.warnings = .ok ws) :
    ∀ text ∈ ws, text.toList.head? = some 'I' ∨ text.toList.head? = some 'l' := by
  obtain ⟨ofConvention, hconvention, hws⟩ := bind_eq_ok.1 hws
  obtain ⟨ofNamespace, hnamespace, hws⟩ := bind_eq_ok.1 hws
  obtain ⟨ofPrefix, hmembers, hws⟩ := bind_eq_ok.1 hws
  obtain ⟨ofOverrides, hoverrides, hws⟩ := bind_eq_ok.1 hws
  rw [← pure_eq_ok.1 hws]
  simp only [List.forall_mem_append]
  refine ⟨⟨⟨⟨?_, ?_⟩, ?_⟩, ?_⟩, ?_⟩
  · obtain ⟨convention, hvalue⟩ := h.namingConvention
    rw [conventionWarnings, hvalue] at hconvention
    cases hcase : o.nameCase with
    | ok case =>
      rw [hcase] at hconvention
      cases hconvention
      simp
    | error fault =>
      rw [hcase] at hconvention
      cases hconvention
      exact List.forall_mem_singleton.2 (.inl (head?_append_text (by decide) _))
  · obtain ⟨ns, hvalue⟩ := h.phpNamespace
    rw [namespaceWarnings, hvalue] at hnamespace
    cases hnamespace
    cases ns with
    | none => simp
    | some ns =>
      rw [Option.map_some, Option.getD_some, segmentWarnings]
      split
      · simp
      · exact List.forall_mem_map.2 fun segment _ =>
          .inl (head?_append_text (head?_append_text (by decide) _) _)
  · obtain ⟨members, hvalue⟩ := h.membersPrefix
    rw [prefixWarnings, hvalue] at hmembers
    cases hmembers
    split
    · simp
    · exact List.forall_mem_singleton.2
        (.inl (head?_append_text (head?_append_text (by decide) _) _))
  · rw [listTypeWarnings]
    split
    · simp
    · exact List.forall_mem_singleton.2 (.inr (by decide))
  · obtain ⟨literals, hvalue⟩ := h.enumValues
    rw [overrideWarnings, hvalue] at hoverrides
    cases hoverrides
    simp

end Options

/-! ## Warnings of a successful run -/

namespace Generator

variable {g : Generator} {s : Schema} {result : RunResult}

theorem warnings_of_success (h : g.generate s = .ok result) (success : result.success = true) :
    ∃ m ofOptions, TypeMap.ofOptions s.registry g.options = .ok m ∧
      g.options.warnings = .ok ofOptions ∧
      result.warnings = s.definitions.filterMap emptyWarning? ++ ofOptions ++
        m.unmappedScalars.map unmappedWarning ++
          (g.unknownEnums s.registry).map unknownEnumWarning := by
  obtain ⟨generated, hrun, rfl⟩ := RunResult.exists_run_of_success h success
  obtain ⟨-, -, hrun⟩ := bind_eq_ok.1 hrun
  obtain ⟨warnings, hwarnings, hrun⟩ := bind_eq_ok.1 hrun
  obtain ⟨code, -, hrun⟩ := bind_eq_ok.1 hrun
  rw [← pure_eq_ok.1 hrun]
  obtain ⟨ofOptions, hoptions, hwarnings⟩ := bind_eq_ok.1 (mapError_eq_ok.1 hwarnings)
  obtain ⟨m, hm, hwarnings⟩ := bind_eq_ok.1 hwarnings
  exact ⟨m, ofOptions, hm, hoptions, (pure_eq_ok.1 hwarnings).symm⟩

/-- The warnings about scalars are those that start like one. -/
theorem startingWith_unmappedFront (ho : g.options.Checked) (h : g.generate s = .ok result)
    (success : result.success = true) :
    ∃ m, TypeMap.ofOptions s.registry g.options = .ok m ∧
      startingWith unmappedFront result.warnings = m.unmappedScalars.map unmappedWarning := by
  obtain ⟨m, ofOptions, hm, hoptions, hwarnings⟩ := warnings_of_success h success
  have front : unmappedFront.toList.head? = some 'S' := by decide
  refine ⟨m, hm, ?_⟩
  rw [hwarnings, startingWith_append, startingWith_append, startingWith_append,
    startingWith_of_head? front, startingWith_of_head? front, startingWith_of_forall,
    startingWith_of_head? front, List.nil_append, List.nil_append, List.append_nil]
  · refine List.forall_mem_map.2 fun enum _ => ?_
    rw [unknownEnumWarning_eq, head?_append_text (c := 'e') (by decide)]
    decide
  · exact List.forall_mem_map.2 fun scalar _ => exists_unmappedWarning scalar
  · intro text htext
    rcases ho.head?_warnings hoptions text htext with hhead | hhead <;> rw [hhead] <;> decide
  · intro text htext
    obtain ⟨d, -, hd⟩ := List.mem_filterMap.1 htext
    rcases head?_emptyWarning hd with hhead | hhead <;> rw [hhead] <;> decide

/-- The warnings about overrides are those that start like one. -/
theorem startingWith_unknownEnumFront (ho : g.options.Checked) (h : g.generate s = .ok result)
    (success : result.success = true) :
    startingWith unknownEnumFront result.warnings =
      (g.options.enumNames.filter (!s.registry.contains ·)).map unknownEnumWarning := by
  obtain ⟨m, ofOptions, -, hoptions, hwarnings⟩ := warnings_of_success h success
  have front : unknownEnumFront.toList.head? = some 'e' := by decide
  rw [hwarnings, startingWith_append, startingWith_append, startingWith_append,
    startingWith_of_head? front, startingWith_of_head? front, startingWith_of_head? front,
    startingWith_of_forall, List.nil_append, List.nil_append, List.nil_append, unknownEnums]
  · exact List.forall_mem_map.2 fun enum _ => ⟨_, unknownEnumWarning_eq enum⟩
  · refine List.forall_mem_map.2 fun scalar _ => ?_
    obtain ⟨back, hback⟩ := exists_unmappedWarning scalar
    rw [hback, head?_append_text (c := 'S') (by decide)]
    decide
  · intro text htext
    rcases ho.head?_warnings hoptions text htext with hhead | hhead <;> rw [hhead] <;> decide
  · intro text htext
    obtain ⟨d, -, hd⟩ := List.mem_filterMap.1 htext
    rcases head?_emptyWarning hd with hhead | hhead <;> rw [hhead] <;> decide

end Generator

/-! ## Useless overrides -/

/-- There is a warning for each name with literals that is not that of an enum, in the order of the
names, and for no other one. -/
def ReportsOverrides (o : Options) (r : Registry) (warnings : List String) : Prop :=
  startingWith Generator.unknownEnumFront warnings =
    (o.enumNames.filter fun name => r.kind? name ≠ some .enum).map Generator.unknownEnumWarning

instance (o : Options) (r : Registry) (warnings : List String) :
    Decidable (ReportsOverrides o r warnings) :=
  inferInstanceAs (Decidable (startingWith _ warnings = _))

/-- Filters of which one passes what the other one passes are the same on a list exactly if they are
on its members. -/
theorem filter_eq_filter_iff {α : Type} {p q : α → Bool} {xs : List α}
    (hpq : ∀ x ∈ xs, p x = true → q x = true) :
    xs.filter p = xs.filter q ↔ ∀ x ∈ xs, q x = true → p x = true := by
  constructor
  · intro h x hx hq
    have hmem : x ∈ xs.filter q := List.mem_filter.2 ⟨hx, hq⟩
    rw [← h] at hmem
    exact (List.mem_filter.1 hmem).2
  · intro h
    exact List.filter_congr fun x hx => Bool.eq_iff_iff.2 ⟨hpq x hx, h x hx⟩

/-- A successful run reports all useless overrides exactly if there are none for a type of another
kind than that of enums. -/
theorem reportsOverrides_iff {w : World} {defaults overrides : Layer} {file : Option String}
    {g : Generator} (hload : Options.load w defaults overrides file = .ok g.options) {s : Schema}
    {result : RunResult} (h : g.generate s = .ok result) (success : result.success = true) :
    ReportsOverrides g.options s.registry result.warnings ↔
      ∀ name ∈ g.options.enumNames, ∀ kind, s.registry.kind? name = some kind → kind = .enum := by
  have contains (name : String) :
      (!s.registry.contains name) = true ↔ s.registry.kind? name = none := by
    rw [Registry.contains, Entries.has, ← Registry.kind?, Bool.not_eq_true', Option.isSome_eq_false_iff,
      Option.isNone_iff_eq_none]
  have unknown : ∀ name ∈ g.options.enumNames, (!s.registry.contains name) = true →
      decide (s.registry.kind? name ≠ some .enum) = true := by
    intro name _ hname
    rw [(contains name).1 hname]
    rfl
  rw [ReportsOverrides,
    Generator.startingWith_unknownEnumFront (Options.load_checked hload) h success,
    (List.map_injective_iff.2 Generator.unknownEnumWarning_injective).eq_iff,
    filter_eq_filter_iff unknown]
  refine forall₂_congr fun name _ => ?_
  rw [contains, decide_eq_true_iff]
  cases s.registry.kind? name with
  | none => simp
  | some kind => simp

/-- Literals for an enum of the schema and for a name that it does not have. -/
theorem reportsOverrides_iff_missing :
    let sdl := "enum E { A }"
    let literals : Layer :=
      [("Missing", .object [("A", .text "x")]), ("E", .object [("A", .text "y")])]
    ∃ (g : Generator) (s : Schema) (result : RunResult),
      Options.load {} Options.defaultLayer [("enum_values", .object literals)] none =
        .ok g.options ∧ Schema.parse sdl = .ok s ∧ g.generate s = .ok result ∧
      result.success = true ∧ ReportsOverrides g.options s.registry result.warnings := by
  intro sdl literals
  let o : Options := { enumValues := .value [("Missing", [("A", "x")]), ("E", [("A", "y")])] }
  have hload : Options.load {} Options.defaultLayer [("enum_values", .object literals)] none =
      .ok o := rfl
  have hruns : ((Schema.parse sdl).toOption.bind fun s =>
      (Generator.generate { options := o } s).toOption.map (·.success)) = some true := by
    decide +kernel
  have hkinds : (Schema.parse sdl).toOption.map
      (fun s => (s.registry.kind? "Missing", s.registry.kind? "E")) =
        some (none, some .enum) := by
    decide +kernel
  obtain ⟨s, hs, hkinds⟩ := exists_ok_of_map_toOption hkinds
  rw [hs] at hruns
  obtain ⟨result, hresult, success⟩ := exists_ok_of_map_toOption hruns
  refine ⟨{ options := o }, s, result, hload, hs, hresult, success, ?_⟩
  rw [reportsOverrides_iff (g := { options := o }) hload hresult success]
  obtain ⟨hmissing, henum⟩ := Prod.mk.inj hkinds
  change ∀ name ∈ ["Missing", "E"], _
  simp [hmissing, henum]

/-- Literals for an input object are of no use, and nothing is said about them. -/
theorem not_reportsOverrides_input :
    let sdl := "input A { x: Int }"
    let literals : Layer := [("A", .object [("X", .text "Y")])]
    ∃ (g : Generator) (s : Schema) (result : RunResult),
      Options.load {} Options.defaultLayer [("enum_values", .object literals)] none =
        .ok g.options ∧ Schema.parse sdl = .ok s ∧ g.generate s = .ok result ∧
      result.success = true ∧ s.registry.kind? "A" = some .inputObject ∧ result.warnings = [] ∧
      ¬ ReportsOverrides g.options s.registry result.warnings := by
  intro sdl literals
  let o : Options := { enumValues := .value [("A", [("X", "Y")])] }
  have hload : Options.load {} Options.defaultLayer [("enum_values", .object literals)] none =
      .ok o := rfl
  have hruns : ((Schema.parse sdl).toOption.bind fun s =>
      (Generator.generate { options := o } s).toOption.map fun r => (r.success, r.warnings)) =
        some (true, []) := by
    decide +kernel
  have hkind : (Schema.parse sdl).toOption.map (·.registry.kind? "A") =
      some (some .inputObject) := by
    decide +kernel
  obtain ⟨s, hs, hkind⟩ := exists_ok_of_map_toOption hkind
  rw [hs] at hruns
  obtain ⟨result, hresult, hshown⟩ := exists_ok_of_map_toOption hruns
  obtain ⟨success, hwarnings⟩ := Prod.mk.inj hshown
  refine ⟨{ options := o }, s, result, hload, hs, hresult, success, hkind, hwarnings, ?_⟩
  -- the name of the input object is among those to be reported, but there is no warning
  change ¬ startingWith _ result.warnings = (["A"].filter _).map _
  rw [hwarnings, List.filter_singleton, hkind]
  decide

end SdlPhp
