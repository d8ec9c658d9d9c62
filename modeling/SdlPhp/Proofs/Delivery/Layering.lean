import SdlPhp.Proofs.Delivery.Assignments
import SdlPhp.Proofs.Options.File
import SdlPhp.Proofs.Options.Layers

/-!
# Flags over a file of options

The options of a command line are those of the file, or else the defaults, under every key for which
no flag is given. What the flags import comes behind the imports of the file. Scalars and literals
are added to the tables of the file, in which nothing else changes, and the custom values are those
of the file. Main statement: `options_layered`.
-/

namespace SdlPhp

open Attempt

/-! ## The options of a file -/

namespace Options

variable {w : World} {fields : Layer} {file : Option String} {base : Options} {key : String}

/-- The value of a file under the key of an option, or else the default. -/
def fileValue? (fields : Layer) (key : String) : Option Json :=
  (Entries.get? fields key).or (Entries.get? (Options.fields {}) key)

/-- The layer of defaults has no other values than the defaults. -/
theorem or_get?_defaultLayer (hkey : key ∈ names) :
    (Entries.get? defaultLayer key).or (Entries.get? (Options.fields {}) key) =
      Entries.get? (Options.fields {}) key := by
  simp only [names, optionShapes, Entries.keys, List.map_cons, List.map_nil, List.mem_cons,
    List.not_mem_nil, or_false] at hkey
  rcases hkey with rfl | rfl | rfl | rfl | rfl | rfl | rfl | rfl | rfl | rfl | rfl | rfl | rfl |
    rfl <;> rfl

theorem unknown_update_defaultLayer (hfields : (Entries.keys fields).Nodup) :
    unknown (Entries.update defaultLayer fields) = unknown fields := by
  have hdefaults : unknown defaultLayer = [] := unknown_of_names (by decide)
  have hunknown : (Entries.keys (unknown fields)).Nodup :=
    Entries.nodup_keys_filter (fun key => (shapeOf? key).isNone) hfields
  unfold unknown at hdefaults hunknown ⊢
  rw [Entries.filter_update fun key => (shapeOf? key).isNone, hdefaults]
  exact Entries.ofPairs_of_nodup hunknown

/-- Options that were loaded without overrides have the values of the file, or else the defaults. -/
theorem gives_file (hfile : FileGives w file fields)
    (hload : load w defaultLayer [] file = .ok base) :
    (∀ key ∈ names, key ≠ "custom" → Entries.get? base.fields key = fileValue? fields key) ∧
      ∃ own, fileValue? fields "custom" = some (.object own) ∧
        base.custom = .value (Entries.update own (unknown fields)) := by
  have hvalue (key : String) : Entries.get? (Entries.update defaultLayer fields) key =
      (Entries.get? fields key).or (Entries.get? defaultLayer key) :=
    Entries.get?_update hfile.nodup defaultLayer key
  have hkeys : (Entries.keys (Entries.update defaultLayer fields)).Nodup :=
    Entries.nodup_keys_update (by decide) fields
  rw [hfile.load, mapError_eq_ok] at hload
  obtain ⟨hplain, own, hown, hcustom⟩ := gives_of_ofLayer hkeys hload
  constructor
  · intro key hkey hne
    rw [hplain key hkey hne, hvalue, Option.or_assoc, or_get?_defaultLayer hkey]
    rfl
  · refine ⟨own, ?_, ?_⟩
    · rw [hvalue, show Entries.get? defaultLayer "custom" = none from rfl, Option.or_none] at hown
      rw [fileValue?, ← hown]
      cases Entries.get? fields "custom" <;> rfl
    · rw [hcustom, unknown_update_defaultLayer hfile.nodup]

end Options

/-! ## Flags -/

namespace Arguments

variable {w : World} {a : Arguments} {base o : Options} {fields : Layer}
  {scalars : List (String × String)} {literals : List ((String × String) × String)}

/-- The keys of the options to which flags add something. -/
def addingKeys : List String := ["imports", "scalars", "enum_values"]

/-- What a flag puts in the place of the value under a key. An empty text counts as not given, but
for the prefixes. -/
def flagValue? (a : Arguments) (key : String) : Option Json :=
  match key with
  | "output_file" => (nonEmpty a.output).map .text
  | "namespace" => (nonEmpty a.phpNamespace).map .text
  | "open_tag" => if a.noOpenTag then some (.bool false) else none
  | "indent_size" => a.indentSize.map (·.setting.json)
  | "use_tabs" => if a.useTabs then some (.bool true) else none
  | "add_comments" => if a.noComments then some (.bool false) else none
  | "naming_convention" => (nonEmpty a.namingConvention).map .text
  | "types_prefix" => a.typesPrefix.map (·.setting.json)
  | "list_type" => (nonEmpty a.listType).map .text
  | "class_members_prefix" => a.membersPrefix.map (·.setting.json)
  | _ => none

/-- The options are those of the file with the flags over them. -/
structure Layered (a : Arguments) (fields : Layer) (scalars : List (String × String))
    (literals : List ((String × String) × String)) (o : Options) : Prop where
  plain : ∀ key ∈ Options.names, key ∉ addingKeys → key ≠ "custom" →
    Entries.get? o.fields key = (a.flagValue? key).or (Options.fileValue? fields key)
  imports : ∃ names : List String,
    Options.fileValue? fields "imports" = some (OptionKind.toJson names) ∧
    o.imports.json = .list (names.map .text ++ a.imports.map (·.setting.json))
  scalars : ∃ t u : Entries String,
    Options.fileValue? fields "scalars" = some (OptionKind.toJson t) ∧
    o.scalars = .value u ∧ u = Entries.update t scalars ∧
    ∀ name, Entries.get? u name = (scalars.reverse.lookup name).or (Entries.get? t name)
  enumValues : ∃ t u : Entries (Entries String),
    Options.fileValue? fields "enum_values" = some (OptionKind.toJson t) ∧
    o.enumValues = .value u ∧ u = literals.foldl addLiteral t ∧
    (∀ enum value, literal? u enum value =
      (literals.reverse.lookup (enum, value)).or (literal? t enum value)) ∧
    ∀ enum, (∀ l ∈ literals, l.1.1 ≠ enum) → Entries.get? u enum = Entries.get? t enum
  custom : ∃ own, Options.fileValue? fields "custom" = some (.object own) ∧
    o.custom = .value (Entries.update own (Options.unknown fields))

section Settings

variable {α β : Type} [OptionKind α]

theorem some_json_getD (given : Option β) (f : β → Setting α) (s : Setting α) :
    some ((given.map f).getD s).json = (given.map fun b => (f b).json).or (some s.json) := by
  cases given <;> rfl

theorem some_json_ite (c : Bool) (v s : Setting α) :
    some (if c then v else s).json = (if c then some v.json else none).or (some s.json) := by
  cases c <;> rfl

end Settings

/-- A flag counts more than what is under it, and changes nothing but the value of its key. -/
theorem get?_flagged (s : Setting (Entries String)) (e : Setting (Entries (Entries String)))
    {key : String} (hkey : key ∈ Options.names) (hadding : key ∉ addingKeys)
    (hcustom : key ≠ "custom") :
    Entries.get? (a.flagged base s e).fields key =
      (a.flagValue? key).or (Entries.get? base.fields key) := by
  simp only [Options.names, optionShapes, Entries.keys, List.map_cons, List.map_nil, List.mem_cons,
    List.not_mem_nil, or_false] at hkey
  rcases hkey with rfl | rfl | rfl | rfl | rfl | rfl | rfl | rfl | rfl | rfl | rfl | rfl | rfl | rfl
  all_goals first
    | exact absurd rfl hcustom
    | exact absurd (by decide) hadding
    | exact some_json_ite _ _ _
    | exact some_json_getD _ _ _

theorem map_json_of_mapM {items : List (Given String)} {texts : List String}
    (h : items.mapM Given.value? = some texts) :
    items.map (·.setting.json) = texts.map .text := by
  induction items generalizing texts with
  | nil =>
    cases h
    rfl
  | cons item items ih =>
    obtain ⟨s, hs, rest, hrest, rfl⟩ := LawfulKind.mapM_cons_eq_some h
    cases item <;> cases hs
    rw [List.map_cons, ih hrest]
    rfl

/-- Imports come behind those that are there. -/
theorem json_allImports (names : List String) :
    (a.allImports (.value names)).json =
      .list (names.map .text ++ a.imports.map (·.setting.json)) := by
  cases hmore : a.imports.mapM Given.value? with
  | none => simp only [allImports, hmore, Setting.json]
  | some more =>
    rw [map_json_of_mapM hmore, ← List.map_append]
    simp only [allImports, hmore]
    rfl

/-- The value under the key of an option that has one of its kind. -/
theorem fileValue?_eq_of_json {α : Type} [OptionKind α] {key : String} {s : Setting α} {v : α}
    (hfields : Entries.get? base.fields key = Options.fileValue? fields key)
    (hjson : Entries.get? base.fields key = some s.json) (hs : s = .value v) :
    Options.fileValue? fields key = some (OptionKind.toJson v) := by
  rw [← hfields, hjson, hs]
  rfl

/-- The options of a command line whose items all assign something: the flags over the file, for
every file that loads. -/
theorem options_layered (hfile : Options.FileGives w a.config fields)
    (hload : ∃ base, Options.load w Options.defaultLayer [] a.config = .ok base)
    (hscalars : List.Forall₂ GivesScalar a.scalars scalars)
    (hliterals : List.Forall₂ GivesLiteral a.enumValues literals) :
    ∃ o, a.options w = .ok o ∧ Layered a fields scalars literals o := by
  obtain ⟨base, hload⟩ := hload
  obtain ⟨hvalues, own, hown, hcustom⟩ := Options.gives_file hfile hload
  have hchecked := Options.load_checked hload
  obtain ⟨names, hnames⟩ := hchecked.imports
  obtain ⟨table, htable⟩ := hchecked.scalars
  obtain ⟨overrides, hoverrides⟩ := hchecked.enumValues
  refine ⟨a.flagged base (base.scalars.map (·.update scalars))
    (.value (literals.foldl addLiteral overrides)), ?_, ?_⟩
  · rw [options, hload]
    exact apply_eq hoverrides hscalars hliterals
  · exact {
      plain := by
        intro key hkey hadding hne
        rw [get?_flagged _ _ hkey hadding hne, hvalues key hkey hne]
      imports := by
        refine ⟨names, ?_, ?_⟩
        · exact fileValue?_eq_of_json (hvalues "imports" (by decide) (by decide)) rfl hnames
        · show (a.allImports base.imports).json = _
          rw [hnames, json_allImports]
      scalars := by
        refine ⟨table, Entries.update table scalars, ?_, ?_, rfl,
          Entries.get?_update_lookup table scalars⟩
        · exact fileValue?_eq_of_json (hvalues "scalars" (by decide) (by decide)) rfl htable
        · show base.scalars.map _ = _
          rw [htable]
          rfl
      enumValues := by
        refine ⟨overrides, literals.foldl addLiteral overrides, ?_, rfl, rfl,
          literal?_foldl_addLiteral literals overrides, ?_⟩
        · exact fileValue?_eq_of_json (hvalues "enum_values" (by decide) (by decide)) rfl hoverrides
        · exact fun enum henum => get?_foldl_addLiteral henum overrides
      custom := ⟨own, hown, hcustom⟩ }

/-- A file with a namespace, a scalar and a value under a key of its own, and flags that give the
scalar twice. -/
theorem options_layered_scalar :
    let w : World := { files := [(["c.json"],
      "\x7b\"namespace\": \"App\", \"scalars\": \x7b\"ID\": \"int\"\x7d, \"team\": 1\x7d".toUTF8)] }
    let a : Arguments := {
      config := some "c.json"
      membersPrefix := some (.value "")
      imports := [.value "App\\Date"]
      scalars := [.value "ID=string", .value " ID = float "]
      enumValues := [.value "Color.RED=Rot"] }
    ∃ o, a.options w = .ok o ∧
      Entries.get? o.fields "class_members_prefix" = some (.text "") ∧
      Entries.get? o.fields "list_type" = some (.text "Iterable") ∧
      ∃ t, o.scalars = .value t ∧ Entries.get? t "ID" = some "float" := by
  intro w a
  have hkeys : (Options.readLayer w (Path.ofText "c.json")).toOption.map Entries.keys =
      some ["namespace", "scalars", "team"] := by
    decide +kernel
  have hloads :
      (fault? (Options.load w Options.defaultLayer [] (some "c.json"))).isNone = true := by
    decide +kernel
  -- the world is not to be computed with any more
  clear_value w
  obtain ⟨fields, hread, hfields⟩ := exists_ok_of_map_toOption hkeys
  have hfile : Options.FileGives w a.config fields := Options.readLayer_eq_ok_iff.1 hread
  have hscalars : List.Forall₂ GivesScalar a.scalars [("ID", "string"), ("ID", "float")] := by
    refine .cons ?_ (.cons ?_ .nil)
    · exact ⟨_, ['I', 'D'], "string".toList, rfl, ⟨rfl, by decide, by decide, by decide⟩, by decide⟩
    · exact ⟨_, " ID ".toList, " float ".toList, rfl, ⟨rfl, by decide, by decide, by decide⟩,
        by decide⟩
  have hliterals : List.Forall₂ GivesLiteral a.enumValues [(("Color", "RED"), "Rot")] := by
    refine .cons ?_ .nil
    exact ⟨_, "Color".toList, "RED".toList, "Rot".toList, rfl,
      ⟨rfl, by decide, by decide, by decide, by decide⟩, by decide⟩
  obtain ⟨o, ho, hlayered⟩ :=
    options_layered hfile (exists_ok_of_isNone hloads) hscalars hliterals
  refine ⟨o, ho, ?_, ?_, ?_⟩
  · rw [hlayered.plain _ (by decide) (by decide) (by decide)]
    rfl
  · have hnone : Entries.get? fields "list_type" = none := by
      rw [Entries.get?_eq_none_iff, hfields]
      decide
    rw [hlayered.plain _ (by decide) (by decide) (by decide), Options.fileValue?, hnone]
    rfl
  · obtain ⟨_, t, -, ht, -, hlookup⟩ := hlayered.scalars
    exact ⟨t, ht, hlookup "ID"⟩

end Arguments

end SdlPhp
