import SdlPhp.Proofs.Json.Sound
import SdlPhp.Proofs.Options.Fields

/-!
# What layers give

The options of a layer are known by their fields: under the key of an option stands what the layer has
there or else the default, and the custom values are those that the layer has under their own key with
all its entries under other keys put among them. Main statements: `gives_of_ofLayer` and `load_sound`.
-/

namespace SdlPhp.Options

open Attempt

variable {layer : Layer} {o : Options} {room : Option Nat}

/-- The layer gives the options. -/
structure Gives (layer : Layer) (o : Options) : Prop where
  plain : ∀ key ∈ names, key ≠ "custom" → Entries.get? o.fields key =
    (Entries.get? layer key).or (Entries.get? (fields {}) key)
  custom : ∃ t, (Entries.get? layer "custom").getD (.object []) = .object t ∧
    o.custom = .value (Entries.update t (unknown layer))

/-! ## Reading a layer -/

theorem firstFault?_of_fitting (h : ∀ e ∈ layer, Fitting e.1 e.2) :
    firstFault? layer room = none := by
  refine List.findSome?_eq_none_iff.2 fun e he => ?_
  cases hshape : shapeOf? e.1 with
  | none => simp [hshape]
  | some shape => simp [hshape, h e he shape hshape]

theorem ofLayer_eq (h : firstFault? layer room = none) : ofLayer layer room = .ok
    { setAll {} (known layer) with
      custom := (setAll {} (known layer)).custom.map (·.update (unknown layer)) } := by
  rw [ofLayer, h]

theorem exists_ofLayer (h : ∀ e ∈ layer, Fitting e.1 e.2) : ∃ o, ofLayer layer room = .ok o :=
  ⟨_, ofLayer_eq (firstFault?_of_fitting h)⟩

theorem firstFault?_of_ofLayer (h : ofLayer layer room = .ok o) :
    firstFault? layer room = none := by
  rw [ofLayer] at h
  split at h
  · cases h
  · assumption

theorem get?_setAll_known (hnodup : (Entries.keys layer).Nodup) {key : String}
    (hkey : key ∈ names) : Entries.get? (setAll {} (known layer)).fields key =
      (Entries.get? layer key).or (Entries.get? (fields {}) key) := by
  rw [fields_setAll fun key h => (mem_keys_known.1 h).2,
    Entries.get?_update (nodup_keys_known hnodup), get?_known hkey]

theorem gives_of_ofLayer (hnodup : (Entries.keys layer).Nodup) (h : ofLayer layer room = .ok o) :
    Gives layer o := by
  have fault := firstFault?_of_ofLayer h
  rw [ofLayer_eq fault, Except.ok.injEq] at h
  have base : (setAll {} (known layer)).Checked :=
    checked_default.setAll fun e he => fitting_of_firstFault? fault e (List.mem_filter.1 he).1
  obtain ⟨t, ht⟩ := base.custom
  subst h
  refine ⟨fun key hkey hcustom => ?_, t, ?_, by rw [ht]; rfl⟩
  · rw [get?_fields hcustom, ← get?_setAll_known hnodup hkey, get?_fields hcustom]
    rfl
  · have := get?_setAll_known hnodup (show "custom" ∈ names by decide)
    rw [get?_fields_custom, ht, Setting.json_custom, get?_fields_custom] at this
    cases hlayer : Entries.get? layer "custom" with
    | none =>
      rw [hlayer, Option.none_or] at this
      exact (Option.some.inj this).symm
    | some v =>
      rw [hlayer, Option.some_or] at this
      exact (Option.some.inj this).symm

/-! ## Sound options -/

theorem whole_of_contains {s : String} (h : s.toList.contains Text.mark = false) :
    Text.Whole s.toList :=
  Text.whole_of_not_mem fun hmem => by simp [hmem] at h

theorem whole_of_mem_names {key : String} (h : key ∈ names) : Text.Whole key.toList := by
  have : (names.all fun s => !s.toList.contains Text.mark) = true := by decide
  exact whole_of_contains (by simpa using List.all_eq_true.1 this key h)

theorem sound_default : (Json.object (fields {})).Sound := by
  refine .object (nodup_fields {}) (fun f hf => whole_of_mem_names (Entries.mem_keys_of_mem hf)) ?_
  simp only [fields, plainFields, List.cons_append, List.nil_append, List.forall_mem_cons,
    Setting.json, OptionKind.toJson, Option.map_none, Option.getD_none, Entries.mapValues,
    List.map_nil]
  exact ⟨.null, .null, .list fun _ h => absurd h List.not_mem_nil, .bool _, .int (by decide),
    .bool _, .bool _, .text (whole_of_contains (by decide)), .text (whole_of_contains (by decide)),
    Json.sound_object_nil, .text (whole_of_contains (by decide)), Json.sound_object_nil,
    .text (whole_of_contains (by decide)), Json.sound_object_nil,
    fun _ h => absurd h List.not_mem_nil⟩

theorem sound_defaultLayer : (Json.object defaultLayer).Sound := by
  have keys : ∀ key ∈ Entries.keys defaultLayer, key ∈ names := by decide
  refine .object (by decide)
    (fun f hf => whole_of_mem_names (keys f.1 (Entries.mem_keys_of_mem hf))) ?_
  simp only [defaultLayer, List.forall_mem_cons]
  exact ⟨.bool _, .int (by decide), .bool _, .bool _, .text (whole_of_contains (by decide)),
    .text (whole_of_contains (by decide)), .text (whole_of_contains (by decide)),
    fun _ h => absurd h List.not_mem_nil⟩

/-- What a sound layer gives is sound. -/
theorem Gives.sound (h : Gives layer o) (hlayer : (Json.object layer).Sound) :
    (Json.object o.fields).Sound := by
  obtain ⟨t, ht, hcustom⟩ := h.custom
  have soundT : (Json.object t).Sound := by
    cases hget : Entries.get? layer "custom" with
    | none =>
      rw [hget] at ht
      exact ht ▸ Json.sound_object_nil
    | some v =>
      rw [hget] at ht
      exact ht ▸ hlayer.of_get? hget
  refine .object (nodup_fields o) (fun f hf => whole_of_mem_names (Entries.mem_keys_of_mem hf))
    fun f hf => ?_
  have hget := Entries.get?_of_mem (nodup_fields o) hf
  by_cases hkey : f.1 = "custom"
  · rw [hkey, get?_fields_custom, hcustom, Setting.json_custom] at hget
    exact Option.some.inj hget ▸ soundT.update (hlayer.sublist List.filter_sublist)
  · rw [h.plain f.1 (Entries.mem_keys_of_mem hf) hkey] at hget
    cases hfound : Entries.get? layer f.1 with
    | none => exact sound_default.of_get? (by rwa [hfound] at hget)
    | some v =>
      rw [hfound] at hget
      exact hlayer.of_get? (hfound.trans hget)

variable {w : World} {defaults overrides : Layer} {file : Option String}

/-- The options that sound layers give have sound fields. -/
theorem load_sound (h : load w defaults overrides file = .ok o)
    (hdefaults : (Json.object defaults).Sound) (hoverrides : (Json.object overrides).Sound)
    (hfile : ∀ name fields, file = some name → readLayer w (Path.ofText name) = .ok fields →
      (Json.object fields).Sound) : (Json.object o.fields).Sound := by
  have sound {fromFile : Layer} (hfrom : (Json.object fromFile).Sound)
      (hlayers : (ofLayers [defaults, fromFile, overrides]).mapError OptionsFault.option = .ok o) :
      (Json.object o.fields).Sound := by
    have merged := (hdefaults.update hfrom).update hoverrides
    exact (gives_of_ofLayer merged.nodup (mapError_eq_ok.1 hlayers)).sound merged
  rw [load] at h
  obtain ⟨fromFile, hread, h⟩ := bind_eq_ok.1 h
  refine sound ?_ h
  split at hread
  · rename_i name hname
    exact hfile name fromFile (Option.filter_eq_some_iff.1 hname).1 hread
  · exact pure_eq_ok.1 hread ▸ Json.sound_object_nil

end SdlPhp.Options
