import SdlPhp.Proofs.Entries
import SdlPhp.Proofs.Options.Checked

/-!
# Options as fields

Options and the fields of an object stand for each other: setting an option puts its field, checked
options with the same fields are the same, and the fields that are saved are those of the options with
the custom values put among them. Main statements: `fields_setAll`, `Checked.ext_fields` and
`flatFields_of_custom`.
-/

namespace SdlPhp

/-! ## Kinds that change nothing -/

/-- A kind whose values have the form in JSON from which they were read. -/
class LawfulKind (α : Type) [OptionKind α] : Prop where
  toJson_of_ofJson? {v : Json} {a : α} (h : OptionKind.ofJson? v = some a) : OptionKind.toJson a = v

namespace LawfulKind

open OptionKind

instance : LawfulKind Json where
  toJson_of_ofJson? h := (Option.some.inj h).symm

instance : LawfulKind Bool where
  toJson_of_ofJson? {v} _ h := by
    cases v <;> cases h
    rfl

instance : LawfulKind Int where
  toJson_of_ofJson? {v} _ h := by
    cases v <;> cases h
    rfl

instance : LawfulKind String where
  toJson_of_ofJson? {v} _ h := by
    cases v <;> cases h
    rfl

instance : LawfulKind (Option String) where
  toJson_of_ofJson? {v} _ h := by
    cases v <;> cases h <;> rfl

theorem mapM_cons_eq_some {α β : Type} {f : α → Option β} {x : α} {xs : List α} {ys : List β}
    (h : (x :: xs).mapM f = some ys) :
    ∃ y, f x = some y ∧ ∃ zs, xs.mapM f = some zs ∧ ys = y :: zs := by
  rw [List.mapM_cons] at h
  obtain ⟨y, hy, h⟩ := Option.bind_eq_some_iff.1 h
  obtain ⟨zs, hzs, h⟩ := Option.bind_eq_some_iff.1 h
  exact ⟨y, hy, zs, hzs, (Option.some.inj h).symm⟩

theorem map_text_of_mapM {items : List Json} {texts : List String}
    (h : items.mapM Json.asText? = some texts) : texts.map .text = items := by
  induction items generalizing texts with
  | nil =>
    cases h
    rfl
  | cons v items ih =>
    obtain ⟨s, hs, rest, hrest, rfl⟩ := mapM_cons_eq_some h
    cases v <;> cases hs
    rw [List.map_cons, ih hrest]

instance : LawfulKind (List String) where
  toJson_of_ofJson? {v} _ h := by
    cases v with
    | list items => exact congrArg Json.list (map_text_of_mapM h)
    | _ => cases h

section

variable {α : Type} [OptionKind α] [LawfulKind α]

theorem mapValues_of_mapM {fields : List (String × Json)} {t : Entries α}
    (h : fields.mapM ofField? = some t) : t.mapValues toJson = fields := by
  induction fields generalizing t with
  | nil =>
    cases h
    rfl
  | cons f fields ih =>
    obtain ⟨e, he, rest, hrest, rfl⟩ := mapM_cons_eq_some h
    obtain ⟨a, ha, rfl⟩ := Option.map_eq_some_iff.1 he
    have := ih hrest
    rw [Entries.mapValues] at this
    rw [Entries.mapValues, List.map_cons, this, toJson_of_ofJson? ha]

instance : LawfulKind (Entries α) where
  toJson_of_ofJson? {v} _ h := by
    cases v with
    | object fields => exact congrArg Json.object (mapValues_of_mapM h)
    | _ => cases h

end

end LawfulKind

namespace Setting

variable {α : Type} [OptionKind α]

@[simp]
theorem json_ofJson [LawfulKind α] (v : Json) : (ofJson v : Setting α).json = v := by
  rw [ofJson]
  split
  · rename_i a ha
    exact LawfulKind.toJson_of_ofJson? ha
  · rfl

theorem IsValue.ofJson_json {s : Setting α} (h : s.IsValue) : ofJson s.json = s := by
  obtain ⟨a, rfl⟩ := h
  exact ofJson_toJson a

theorem IsValue.ext_json {s t : Setting α} (hs : s.IsValue) (ht : t.IsValue)
    (h : s.json = t.json) : s = t := by
  rw [← hs.ofJson_json, h, ht.ofJson_json]

theorem IsValue.isOf_json {s : Setting α} (h : s.IsValue) : s.json.isOf α = true := by
  obtain ⟨a, rfl⟩ := h
  rw [json, Json.isOf, OptionKind.ofJson?_toJson, Option.isSome_some]

theorem json_custom (t : Entries Json) : (value t : Setting (Entries Json)).json = .object t :=
  congrArg Json.object (List.map_id t)

end Setting

namespace Options

/-! ## Names -/

/-- The keys of the options. -/
def names : List String := Entries.keys optionShapes

theorem isSome_shapeOf? {key : String} : (shapeOf? key).isSome = true ↔ key ∈ names := by
  rw [← not_iff_not, Bool.not_eq_true, Option.isSome_eq_false_iff, Option.isNone_iff_eq_none]
  exact Entries.get?_eq_none_iff

theorem isNone_shapeOf? {key : String} : (shapeOf? key).isNone = true ↔ key ∉ names := by
  rw [Option.isNone_iff_eq_none]
  exact Entries.get?_eq_none_iff

theorem nodup_names : names.Nodup := by decide

theorem mem_keys_known {layer : Layer} {key : String} :
    key ∈ Entries.keys (known layer) ↔ key ∈ Entries.keys layer ∧ key ∈ names := by
  rw [known, Entries.mem_keys_filter fun key => (shapeOf? key).isSome, isSome_shapeOf?]

theorem mem_keys_unknown {layer : Layer} {key : String} :
    key ∈ Entries.keys (unknown layer) ↔ key ∈ Entries.keys layer ∧ key ∉ names := by
  rw [unknown, Entries.mem_keys_filter fun key => (shapeOf? key).isNone, isNone_shapeOf?]

theorem nodup_keys_known {layer : Layer} (h : (Entries.keys layer).Nodup) :
    (Entries.keys (known layer)).Nodup :=
  Entries.nodup_keys_filter (fun key => (shapeOf? key).isSome) h

theorem get?_known {layer : Layer} {key : String} (h : key ∈ names) :
    Entries.get? (known layer) key = Entries.get? layer key := by
  rw [known, Entries.get?_filter fun key => (shapeOf? key).isSome, if_pos (isSome_shapeOf?.2 h)]

/-- Putting entries under other keys changes nothing under the keys of options. -/
theorem get?_update_unknown {layer : Layer} (hnodup : (Entries.keys layer).Nodup) (t : Layer)
    {key : String} (h : key ∈ names) :
    Entries.get? (Entries.update t (unknown layer)) key = Entries.get? t key := by
  have none : Entries.get? (unknown layer) key = none :=
    Entries.get?_eq_none_iff.2 fun hkey => (mem_keys_unknown.1 hkey).2 h
  have nodup : (Entries.keys (unknown layer)).Nodup :=
    Entries.nodup_keys_filter (fun key => (shapeOf? key).isNone) hnodup
  rw [Entries.get?_update nodup, none, Option.none_or]

/-- Where every key is one of an option, nothing is left for the custom values. -/
theorem unknown_of_names {layer : Layer} (h : ∀ key ∈ Entries.keys layer, key ∈ names) :
    unknown layer = [] :=
  List.filter_eq_nil_iff.2 fun _ he hnone =>
    isNone_shapeOf?.1 hnone (h _ (Entries.mem_keys_of_mem he))

theorem unknown_of_no_names {layer : Layer} (h : ∀ key ∈ Entries.keys layer, key ∉ names) :
    unknown layer = layer :=
  List.filter_eq_self.2 fun _ he => isNone_shapeOf?.2 (h _ (Entries.mem_keys_of_mem he))

/-! ## Setting options -/

variable {o p : Options}

theorem nodup_fields (o : Options) : (Entries.keys o.fields).Nodup := nodup_names

theorem mem_keys_plainFields {key : String} :
    key ∈ Entries.keys o.plainFields ↔ key ∈ names ∧ key ≠ "custom" := by
  have keys : Entries.keys o.plainFields = names.filter (· ≠ "custom") := rfl
  rw [keys, List.mem_filter, decide_eq_true_iff]

theorem nodup_plainFields (o : Options) : (Entries.keys o.plainFields).Nodup :=
  nodup_names.sublist (List.sublist_append_left _ ["custom"])

theorem get?_fields {key : String} (h : key ≠ "custom") :
    Entries.get? o.fields key = Entries.get? o.plainFields key := by
  rw [fields, Entries.get?_append, Entries.get?, if_neg h.symm]
  exact Option.or_none

theorem get?_fields_custom : Entries.get? o.fields "custom" = some o.custom.json := rfl

theorem fields_set {key : String} (h : key ∈ names) (v : Json) :
    (o.set key v).fields = Entries.put o.fields key v := by
  simp only [names, optionShapes, Entries.keys, List.map_cons, List.map_nil, List.mem_cons,
    List.not_mem_nil, or_false] at h
  rcases h with rfl | rfl | rfl | rfl | rfl | rfl | rfl | rfl | rfl | rfl | rfl | rfl | rfl | rfl <;>
    simp [set, fields, plainFields, Entries.put]

theorem fields_setAll {entries : Layer} (h : ∀ key ∈ Entries.keys entries, key ∈ names) :
    (o.setAll entries).fields = Entries.update o.fields entries := by
  induction entries generalizing o with
  | nil => rfl
  | cons e entries ih =>
    have he := List.forall_mem_cons.1 h
    rw [show o.setAll (e :: entries) = (o.set e.1 e.2).setAll entries from rfl, ih he.2,
      fields_set he.1]
    rfl

/-! ## Checked options -/

/-- Checked options are known by their fields. -/
theorem Checked.ext_fields (ho : o.Checked) (hp : p.Checked) (h : o.fields = p.fields) :
    o = p := by
  simp only [fields, plainFields, List.cons_append, List.nil_append, List.cons.injEq,
    Prod.mk.injEq, true_and, and_true] at h
  obtain ⟨h1, h2, h3, h4, h5, h6, h7, h8, h9, h10, h11, h12, h13, h14⟩ := h
  rw [show o = ⟨o.outputFile, o.phpNamespace, o.imports, o.openTag, o.indentSize, o.useTabs,
      o.addComments, o.namingConvention, o.typesPrefix, o.scalars, o.listType, o.enumValues,
      o.membersPrefix, o.custom⟩ from rfl,
    ho.outputFile.ext_json hp.outputFile h1, ho.phpNamespace.ext_json hp.phpNamespace h2,
    ho.imports.ext_json hp.imports h3, ho.openTag.ext_json hp.openTag h4,
    ho.indentSize.ext_json hp.indentSize h5, ho.useTabs.ext_json hp.useTabs h6,
    ho.addComments.ext_json hp.addComments h7,
    ho.namingConvention.ext_json hp.namingConvention h8,
    ho.typesPrefix.ext_json hp.typesPrefix h9, ho.scalars.ext_json hp.scalars h10,
    ho.listType.ext_json hp.listType h11, ho.enumValues.ext_json hp.enumValues h12,
    ho.membersPrefix.ext_json hp.membersPrefix h13, ho.custom.ext_json hp.custom h14]

/-- The fields of checked options have the shapes that the options ask for. -/
theorem Checked.fitting_fields (h : o.Checked) : ∀ e ∈ o.fields, Fitting e.1 e.2 := by
  have fits {key : String} {v : Json} (shape : Shape) (hkey : shapeOf? key = some shape)
      (hv : v.fits shape = true) : Fitting key v := fun other hother =>
    Option.some.inj (hkey.symm.trans hother) ▸ hv
  simp only [fields, plainFields, List.cons_append, List.nil_append, List.forall_mem_cons]
  exact ⟨fits .textOrNull rfl h.outputFile.isOf_json,
    fits .textOrNull rfl h.phpNamespace.isOf_json,
    fits .texts rfl h.imports.isOf_json,
    fits .flag rfl h.openTag.isOf_json,
    fits .integer rfl h.indentSize.isOf_json,
    fits .flag rfl h.useTabs.isOf_json,
    fits .flag rfl h.addComments.isOf_json,
    fits .text rfl h.namingConvention.isOf_json,
    fits .text rfl h.typesPrefix.isOf_json,
    fits .scalarMap rfl h.scalars.isOf_json,
    fits .text rfl h.listType.isOf_json,
    fits .overrideMap rfl h.enumValues.isOf_json,
    fits .text rfl h.membersPrefix.isOf_json,
    fits .object rfl h.custom.isOf_json, fun _ he => absurd he List.not_mem_nil⟩

end Options

/-! ## Fields that are saved -/

namespace KeyTable

variable {α : Type}

theorem put_ofEntries (t : Entries α) (key : String) (value : α) :
    put (ofEntries t) (.text key) value = ofEntries (Entries.put t key value) := by
  induction t with
  | nil => rfl
  | cons e t ih =>
    rw [ofEntries, List.map_cons, put, Entries.put]
    by_cases hkey : e.1 = key
    · simp [Json.sameKey_text, hkey, ofEntries]
    · simpa [Json.sameKey_text, hkey, ofEntries] using ih

theorem update_ofEntries (t u : Entries α) :
    (ofEntries t).update (ofEntries u) = ofEntries (Entries.update t u) := by
  induction u generalizing t with
  | nil => rfl
  | cons e u ih =>
    have := ih (Entries.put t e.1 e.2)
    rw [← put_ofEntries] at this
    exact this

theorem fields_ofEntries (t : Entries α) : (ofEntries t).fields = t := by
  rw [ofEntries, fields, List.map_map]
  exact List.map_id t

end KeyTable

theorem Options.flatFields_of_custom {o : Options} {t : Entries Json} (h : o.custom = .value t) :
    o.flatFields = .ok (Entries.update o.plainFields t) := by
  rw [flatFields, h, Setting.json_custom, Json.entries, Except.map, KeyTable.update_ofEntries,
    KeyTable.fields_ofEntries]

end SdlPhp
