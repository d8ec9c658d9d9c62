import SdlPhp.Proofs.Options.File
import SdlPhp.Proofs.Options.Layers

/-!
# Precedence of layers

Under each key the value of the last layer with that key wins, whatever stands below it. Options are
refused exactly if a winning value has not the shape that its option admits, and the fault tells the
first such key in the order in which the layers bring in their keys; only a value that cannot be
written is in the way of the message. Otherwise each option has its winning value, or its default
where no layer has one, and the winning values under all other keys are among the custom values. Main
statements: `fits_iff_admits`, `isFirst_of_firstFault?` and `load_layers`.
-/

namespace SdlPhp

open Attempt

/-! ## Shapes -/

/-- An object whose values are texts. -/
def Json.IsTextMap (v : Json) : Prop :=
  ∃ fields, v = .object fields ∧ ∀ f ∈ fields, ∃ s, f.2 = .text s

/-- The values that have a shape, down to the items of a list and the fields of an object. -/
def Shape.Admits : Shape → Json → Prop
  | textOrNull, v => v = .null ∨ ∃ s, v = .text s
  | texts, v => ∃ items, v = .list items ∧ ∀ item ∈ items, ∃ s, item = .text s
  | flag, v => ∃ b, v = .bool b
  | integer, v => ∃ n, v = .int n
  | text, v => ∃ s, v = .text s
  | scalarMap, v => v.IsTextMap
  | overrideMap, v => ∃ enums, v = .object enums ∧ ∀ f ∈ enums, f.2.IsTextMap
  | object, v => ∃ fields, v = .object fields

theorem isSome_mapM_iff {α β : Type} {f : α → Option β} {xs : List α} :
    (xs.mapM f).isSome = true ↔ ∀ x ∈ xs, (f x).isSome = true := by
  induction xs with
  | nil => simp
  | cons x xs ih =>
    rw [List.forall_mem_cons, ← ih, List.mapM_cons]
    cases f x with
    | none => simp
    | some y => cases xs.mapM f <;> simp

namespace Json

variable {v : Json}

theorem isOf_text_iff : v.isOf String = true ↔ ∃ s, v = .text s := by
  cases v <;> simp [isOf, OptionKind.ofJson?, asText?]

theorem isOf_texts_iff :
    v.isOf (List String) = true ↔ ∃ items, v = .list items ∧ ∀ item ∈ items, ∃ s, item = .text s := by
  cases v with
  | list items =>
    change (items.mapM asText?).isSome = true ↔ _
    rw [isSome_mapM_iff]
    constructor
    · exact fun h => ⟨items, rfl, fun item hitem => isOf_text_iff.1 (h item hitem)⟩
    · rintro ⟨_, ⟨⟩, h⟩ item hitem
      exact isOf_text_iff.2 (h item hitem)
  | _ => simp [isOf, OptionKind.ofJson?]

theorem isOf_entries_iff {α : Type} [OptionKind α] :
    v.isOf (Entries α) = true ↔ ∃ fields, v = .object fields ∧ ∀ f ∈ fields, f.2.isOf α = true := by
  cases v with
  | object fields =>
    change (fields.mapM (OptionKind.ofField? : _ → Option (String × α))).isSome = true ↔ _
    have hfield (f : String × Json) :
        (OptionKind.ofField? f : Option (String × α)).isSome = f.2.isOf α := Option.isSome_map
    simp only [isSome_mapM_iff, hfield]
    constructor
    · exact fun h => ⟨fields, rfl, h⟩
    · rintro ⟨_, ⟨⟩, h⟩
      exact h
  | _ => simp [isOf, OptionKind.ofJson?]

/-- The check of a shape looks at all parts of a value. -/
theorem fits_iff_admits {shape : Shape} : v.fits shape = true ↔ shape.Admits v := by
  cases shape with
  | textOrNull => cases v <;> simp [fits, isOf, OptionKind.ofJson?, asText?, Shape.Admits]
  | texts => exact isOf_texts_iff
  | flag => cases v <;> simp [fits, isOf, OptionKind.ofJson?, Shape.Admits]
  | integer => cases v <;> simp [fits, isOf, OptionKind.ofJson?, Shape.Admits]
  | text => exact isOf_text_iff
  | scalarMap =>
    rw [fits, isOf_entries_iff]
    simp only [isOf_text_iff]
    rfl
  | overrideMap =>
    rw [fits, isOf_entries_iff]
    simp only [isOf_entries_iff, isOf_text_iff]
    rfl
  | object =>
    rw [fits, isOf_entries_iff]
    cases v <;> simp [isOf, OptionKind.ofJson?, Shape.Admits]

end Json

namespace Options

/-! ## Faults -/

variable {layer : Layer} {room : Option Nat} {f : OptionFault}

/-- The fault tells the key of an option, its shape, and the value under the key, which has not that
shape, together with what keeps the value from being written. -/
structure Misfit (value? : String → Option Json) (room : Option Nat) (f : OptionFault) : Prop where
  shape : shapeOf? f.key = some f.shape
  value : value? f.key = some f.value
  misfit : ¬ f.shape.Admits f.value
  unwritten : f.unwritten = f.value.writeFault? room

/-- No fault tells an earlier one of the keys. -/
def IsFirst (keys : List String) (value? : String → Option Json) (room : Option Nat)
    (f : OptionFault) : Prop :=
  ∃ before after, keys = before ++ f.key :: after ∧ ∀ g, Misfit value? room g → g.key ∉ before

/-- The fault of an entry of a layer. -/
def entryFault? (room : Option Nat) (key : String) (v : Json) : Option OptionFault :=
  match shapeOf? key with
  | some shape => if v.fits shape then none else some ⟨key, shape, v, v.writeFault? room⟩
  | none => none

theorem firstFault?_eq (layer : Layer) (room : Option Nat) :
    firstFault? layer room = layer.findSome? fun e => entryFault? room e.1 e.2 := rfl

theorem entryFault?_eq_some_iff {key : String} {v : Json} :
    entryFault? room key v = some f ↔ f.key = key ∧ f.value = v ∧ shapeOf? key = some f.shape ∧
      ¬ f.shape.Admits v ∧ f.unwritten = v.writeFault? room := by
  obtain ⟨fkey, fshape, fvalue, funwritten⟩ := f
  rw [entryFault?]
  cases hshape : shapeOf? key with
  | none => simp
  | some shape =>
    simp only [Option.ite_none_left_eq_some, Json.fits_iff_admits, Option.some.injEq,
      OptionFault.mk.injEq]
    constructor
    · rintro ⟨hmisfit, rfl, rfl, rfl, rfl⟩
      exact ⟨rfl, rfl, rfl, hmisfit, rfl⟩
    · rintro ⟨rfl, rfl, rfl, hmisfit, rfl⟩
      exact ⟨hmisfit, rfl, rfl, rfl, rfl⟩

theorem misfit_iff_exists (hnodup : (Entries.keys layer).Nodup) :
    Misfit (Entries.get? layer) room f ↔ ∃ e ∈ layer, entryFault? room e.1 e.2 = some f := by
  constructor
  · rintro ⟨hshape, hvalue, hmisfit, hunwritten⟩
    refine ⟨_, Entries.mem_of_get?_eq_some hvalue, ?_⟩
    exact entryFault?_eq_some_iff.2 ⟨rfl, rfl, hshape, hmisfit, hunwritten⟩
  · rintro ⟨e, he, hfault⟩
    obtain ⟨hkey, hvalue, hshape, hmisfit, hunwritten⟩ := entryFault?_eq_some_iff.1 hfault
    refine ⟨hkey ▸ hshape, ?_, hvalue ▸ hmisfit, hvalue ▸ hunwritten⟩
    rw [hkey, hvalue, Entries.get?_of_mem hnodup he]

theorem firstFault?_eq_none_iff (hnodup : (Entries.keys layer).Nodup) :
    firstFault? layer room = none ↔ ∀ f, ¬ Misfit (Entries.get? layer) room f := by
  rw [firstFault?_eq, List.findSome?_eq_none_iff]
  simp only [misfit_iff_exists hnodup, Option.eq_none_iff_forall_ne_some]
  exact ⟨fun h f ⟨e, he, hfault⟩ => h e he f hfault, fun h e he f hfault => h f ⟨e, he, hfault⟩⟩

theorem message_of_written (h : f.unwritten = none) :
    f.message = "Option '" ++ f.key ++ "' must be " ++ f.shape.words ++ ", got " ++
      f.value.kindName ++ ": " ++ f.value.literal := by
  obtain ⟨key, shape, value, unwritten⟩ := f
  obtain rfl : unwritten = none := h
  simp only [OptionFault.message, toString]

/-- A layer is refused with the fault of the first value that does not fit. -/
theorem isFirst_of_firstFault? (hnodup : (Entries.keys layer).Nodup)
    (h : firstFault? layer room = some f) :
    Misfit (Entries.get? layer) room f ∧
      IsFirst (Entries.keys layer) (Entries.get? layer) room f := by
  rw [firstFault?_eq, List.findSome?_eq_some_iff] at h
  obtain ⟨before, e, after, rfl, hfault, hfree⟩ := h
  obtain ⟨hkey, -⟩ := entryFault?_eq_some_iff.1 hfault
  refine ⟨(misfit_iff_exists hnodup).2 ⟨e, by simp, hfault⟩, Entries.keys before,
    Entries.keys after, ?_, fun g hg hmem => ?_⟩
  · rw [Entries.keys_append, hkey]
    rfl
  · -- an entry under the key of another fault has that fault, and those before have none
    obtain ⟨d, hd, hdkey⟩ := List.mem_map.1 hmem
    have hvalue := Entries.get?_of_mem hnodup (List.mem_append_left _ hd)
    rw [hdkey, hg.value] at hvalue
    have hnone := hfree d hd
    rw [hdkey, ← Option.some.inj hvalue,
      entryFault?_eq_some_iff.2 ⟨rfl, rfl, hg.shape, hg.misfit, hg.unwritten⟩] at hnone
    cases hnone

/-- There is only one first fault. -/
theorem Misfit.eq_of_isFirst {keys : List String} {value? : String → Option Json}
    {g : OptionFault} (hf : Misfit value? room f) (hg : Misfit value? room g)
    (hfirst : IsFirst keys value? room f) (hfirst' : IsFirst keys value? room g) : f = g := by
  obtain ⟨before, after, hkeys, hfree⟩ := hfirst
  obtain ⟨before', after', hkeys', hfree'⟩ := hfirst'
  have hkey : f.key = g.key := by
    rcases List.append_eq_append_iff.1 (hkeys.symm.trans hkeys') with
      ⟨between, rfl, hsplit⟩ | ⟨between, rfl, hsplit⟩ <;> cases between with
    | nil => simp_all
    | cons key between => exact absurd (by simp_all) (hfree' f hf)
  obtain ⟨fkey, fshape, fvalue, funwritten⟩ := f
  obtain ⟨gkey, gshape, gvalue, gunwritten⟩ := g
  obtain rfl : fkey = gkey := hkey
  obtain rfl : fshape = gshape := Option.some.inj (hf.shape.symm.trans hg.shape)
  obtain rfl : fvalue = gvalue := Option.some.inj (hf.value.symm.trans hg.value)
  exact congrArg _ (hf.unwritten.trans hg.unwritten.symm)

/-! ## Layers -/

/-- The value that wins under a key: that of the overrides, or else of the file, or else of the
defaults. -/
def winner? (defaults fields overrides : Layer) (key : String) : Option Json :=
  (Entries.get? overrides key).or ((Entries.get? fields key).or (Entries.get? defaults key))

/-- The keys of the defaults, then the new ones of the file, then the new ones of the overrides. -/
def keyOrder (defaults fields overrides : Layer) : List String :=
  let below := Entries.keys defaults ++ (Entries.keys fields).filter (· ∉ Entries.keys defaults)
  below ++ (Entries.keys overrides).filter (· ∉ below)

section Merged

variable {defaults fields overrides : Layer}

theorem keys_merge (hfields : (Entries.keys fields).Nodup)
    (hoverrides : (Entries.keys overrides).Nodup) :
    Entries.keys (merge [defaults, fields, overrides]) = keyOrder defaults fields overrides := by
  change Entries.keys (Entries.update (Entries.update defaults fields) overrides) = _
  rw [Entries.keys_update hoverrides, Entries.keys_update hfields, keyOrder]

theorem get?_merge (hfields : (Entries.keys fields).Nodup)
    (hoverrides : (Entries.keys overrides).Nodup) :
    Entries.get? (merge [defaults, fields, overrides]) = winner? defaults fields overrides := by
  funext key
  change Entries.get? (Entries.update (Entries.update defaults fields) overrides) key = _
  rw [Entries.get?_update hoverrides, Entries.get?_update hfields, winner?]

theorem nodup_keys_merge (hdefaults : (Entries.keys defaults).Nodup) :
    (Entries.keys (merge [defaults, fields, overrides])).Nodup :=
  Entries.nodup_keys_update (Entries.nodup_keys_update hdefaults _) _

end Merged

/-- What the custom values of a layer are: those under its own key for them, with the values under
keys that are no options put among them. -/
theorem get?_custom_of_gives {o : Options} (hnodup : (Entries.keys layer).Nodup)
    (h : Gives layer o) :
    ∃ own custom, (Entries.get? layer "custom").getD (.object []) = .object own ∧
      o.custom = .value custom ∧ ∀ key, Entries.get? custom key =
        if key ∈ names then Entries.get? own key
        else (Entries.get? layer key).or (Entries.get? own key) := by
  obtain ⟨own, hown, hcustom⟩ := h.custom
  refine ⟨own, _, hown, hcustom, fun key => ?_⟩
  have hunknown : (Entries.keys (unknown layer)).Nodup :=
    Entries.nodup_keys_filter (fun key => (shapeOf? key).isNone) hnodup
  rw [Entries.get?_update hunknown, unknown,
    Entries.get?_filter fun key => (shapeOf? key).isNone]
  by_cases hkey : key ∈ names
  · rw [if_pos hkey, if_neg fun hnone => isNone_shapeOf?.1 hnone hkey, Option.none_or]
  · rw [if_neg hkey, if_pos (isNone_shapeOf?.2 hkey)]

theorem ofLayer_eq_error_iff : ofLayer layer room = .error f ↔ firstFault? layer room = some f := by
  rw [ofLayer]
  cases firstFault? layer room with
  | none => simp
  | some g => simp

/-- The options are given by the winning values: each option has its own or else its default, and the
custom values are those under their own key with the winning values of all keys that are no options
put among them. -/
structure ByWinners (value? : String → Option Json) (o : Options) : Prop where
  keys : Entries.keys o.fields = names
  plain : ∀ key ∈ names, key ≠ "custom" →
    Entries.get? o.fields key = (value? key).or (Entries.get? (Options.fields {}) key)
  custom : ∃ own custom, (value? "custom").getD (.object []) = .object own ∧
    o.custom = .value custom ∧ ∀ key, Entries.get? custom key =
      if key ∈ names then Entries.get? own key else (value? key).or (Entries.get? own key)

/-- A loading is told by the winning values. It is refused as one of wrong options exactly if one of
them has not the shape of its option, and then tells the first such fault in the order of keys. -/
structure LoadsAsTold (keys : List String) (value? : String → Option Json) (room : Option Nat)
    (loaded : Except OptionsFault Options) : Prop where
  refused_iff : (∃ fault, loaded = .error fault ∧ fault.isUntold = false) ↔
    ∃ f, Misfit value? room f
  tells : ∀ fault, loaded = .error fault → fault.isUntold = false →
    ∃ f, fault = .option f ∧ Misfit value? room f ∧ IsFirst keys value? room f ∧
      fault.message = "Option '" ++ f.key ++ "' must be " ++ f.shape.words ++ ", got " ++
        f.value.kindName ++ ": " ++ f.value.literal
  gives : ∀ o, loaded = .ok o → ByWinners value? o

section Layer

variable (hnodup : (Entries.keys layer).Nodup)
include hnodup

theorem exists_ofLayer_error_iff :
    (∃ fault, (ofLayer layer room).mapError OptionsFault.option = .error fault) ↔
      ∃ f, Misfit (Entries.get? layer) room f := by
  rw [← not_iff_not, not_exists, not_exists, ← firstFault?_eq_none_iff hnodup, ofLayer]
  cases firstFault? layer room with
  | none => simp [Except.mapError]
  | some f => simp [Except.mapError]

/-- A layer that is refused is so for its first fault. -/
theorem isFirst_of_ofLayer {fault : OptionsFault}
    (h : (ofLayer layer room).mapError OptionsFault.option = .error fault) :
    ∃ f, fault = .option f ∧ Misfit (Entries.get? layer) room f ∧
      IsFirst (Entries.keys layer) (Entries.get? layer) room f := by
  cases hlayer : ofLayer layer room with
  | ok o =>
    rw [hlayer] at h
    cases h
  | error f =>
    rw [hlayer] at h
    cases h
    exact ⟨f, rfl, isFirst_of_firstFault? hnodup (ofLayer_eq_error_iff.1 hlayer)⟩

theorem byWinners_of_ofLayer {o : Options} (h : ofLayer layer room = .ok o) :
    ByWinners (Entries.get? layer) o := by
  have hgives := gives_of_ofLayer hnodup h
  exact ⟨rfl, hgives.plain, get?_custom_of_gives hnodup hgives⟩

/-- The value in the way of a message is that of the first fault, and no other. -/
theorem loadsAsTold_iff :
    LoadsAsTold (Entries.keys layer) (Entries.get? layer) room
        ((ofLayer layer room).mapError .option) ↔
      ∀ f, Misfit (Entries.get? layer) room f →
        IsFirst (Entries.keys layer) (Entries.get? layer) room f →
          f.value.writeFault? room = none := by
  constructor
  · intro h f hf hfirst
    obtain ⟨fault, hfault, told⟩ := h.refused_iff.2 ⟨f, hf⟩
    obtain ⟨g, rfl, hg, hgfirst⟩ := isFirst_of_ofLayer hnodup hfault
    obtain rfl := hf.eq_of_isFirst hg hfirst hgfirst
    rw [← hf.unwritten]
    exact Option.isNone_iff_eq_none.1 (Option.isSome_eq_false_iff.1 told)
  · intro h
    have told {f : OptionFault} (hf : Misfit (Entries.get? layer) room f)
        (hfirst : IsFirst (Entries.keys layer) (Entries.get? layer) room f) :
        f.unwritten = none := hf.unwritten.trans (h f hf hfirst)
    refine ⟨⟨?_, fun hmisfit => ?_⟩, fun fault hfault _ => ?_, fun o ho => ?_⟩
    · rintro ⟨fault, hfault, -⟩
      exact (exists_ofLayer_error_iff hnodup).1 ⟨fault, hfault⟩
    · obtain ⟨fault, hfault⟩ := (exists_ofLayer_error_iff hnodup).2 hmisfit
      obtain ⟨f, rfl, hf, hfirst⟩ := isFirst_of_ofLayer hnodup hfault
      exact ⟨_, hfault, by rw [OptionsFault.isUntold, OptionFault.isUntold, told hf hfirst]; rfl⟩
    · obtain ⟨f, rfl, hf, hfirst⟩ := isFirst_of_ofLayer hnodup hfault
      exact ⟨f, rfl, hf, hfirst, message_of_written (told hf hfirst)⟩
    · exact byWinners_of_ofLayer hnodup (mapError_eq_ok.1 ho)

end Layer

/-- A loading fails exactly if a winning value has not the shape of its option, with the first such
fault, and otherwise gives options by the winning values. The fault is told as one of the options
unless the value in its way cannot be written. -/
theorem load_layers {w : World} {defaults overrides fields : Layer} {file : Option String}
    {room : Option Nat} (hdefaults : (Entries.keys defaults).Nodup)
    (hoverrides : (Entries.keys overrides).Nodup) (hfile : FileGives w file fields room) :
    let value? := winner? defaults fields overrides
    let keys := keyOrder defaults fields overrides
    let loaded := load w defaults overrides file room
    ((∃ fault, loaded = .error fault) ↔ ∃ f, Misfit value? room f) ∧
      (∀ fault, loaded = .error fault →
        ∃ f, fault = .option f ∧ Misfit value? room f ∧ IsFirst keys value? room f) ∧
      (∀ o, loaded = .ok o → ByWinners value? o) ∧
      (LoadsAsTold keys value? room loaded ↔
        ∀ f, Misfit value? room f → IsFirst keys value? room f →
          f.value.writeFault? room = none) := by
  intro value? keys loaded
  have hlayer : (Entries.keys (merge [defaults, fields, overrides])).Nodup :=
    nodup_keys_merge hdefaults
  have hkeys : Entries.keys (merge [defaults, fields, overrides]) = keys :=
    keys_merge hfile.nodup hoverrides
  have hvalue : Entries.get? (merge [defaults, fields, overrides]) = value? :=
    get?_merge hfile.nodup hoverrides
  have hload : loaded = (ofLayer (merge [defaults, fields, overrides]) room).mapError .option :=
    hfile.load defaults overrides
  rw [hload, ← hvalue, ← hkeys]
  exact ⟨exists_ofLayer_error_iff hlayer, fun fault => isFirst_of_ofLayer hlayer,
    fun o ho => byWinners_of_ofLayer hlayer (mapError_eq_ok.1 ho), loadsAsTold_iff hlayer⟩

/-- A file over defaults and under overrides. What it has under an option does not matter if the
overrides have something else there, and is refused if they do not. -/
theorem load_layers_team :
    let defaults : Layer := [("indent_size", .text "wide"), ("team", .int 1)]
    let fields : Layer := [("imports", .list [.int 1]), ("indent_size", .bool true), ("team", .null)]
    ∃ w, FileGives w (some "team.json") fields ∧
      (∃ o custom, load w defaults [("imports", .list []), ("indent_size", .int 2)]
          (some "team.json") = .ok o ∧ Entries.get? o.fields "indent_size" = some (.int 2) ∧
        o.custom = .value custom ∧ Entries.get? custom "team" = some .null) ∧
      ∃ f, load w defaults [] (some "team.json") = .error (.option f) ∧ f.key = "indent_size" := by
  intro defaults fields
  have hsound : (Json.object fields).Sound := by
    refine .object (by decide) ?_ ?_
    · simp only [fields, List.forall_mem_cons]
      exact ⟨whole_of_contains (by decide), whole_of_contains (by decide),
        whole_of_contains (by decide), List.forall_mem_nil _⟩
    · simp only [fields, List.forall_mem_cons]
      exact ⟨.list (List.forall_mem_singleton.2 (.int (by decide))), .bool _, .null,
        List.forall_mem_nil _⟩
  obtain ⟨bytes, -, hdecode⟩ := exists_decode?_write hsound
  let path := Path.ofText "team.json"
  have hwrite : World.write {} path bytes = .ok (World.withFile {} ["team.json"] bytes) :=
    World.write_eq_ok.2 ⟨["team.json"], by decide +kernel, by decide +kernel, rfl⟩
  have hfile : FileGives (World.withFile {} ["team.json"] bytes) (some "team.json") fields :=
    ⟨by decide +kernel, bytes, _, (World.saves_of_write hwrite).read, hdecode,
      Json.read_write hsound⟩
  have hdefaults : (Entries.keys defaults).Nodup := by decide
  refine ⟨_, hfile, ?_, ?_⟩
  · let overrides : Layer := [("imports", .list []), ("indent_size", .int 2)]
    have hoverrides : (Entries.keys overrides).Nodup := by decide
    obtain ⟨-, -, hgives, -⟩ := load_layers hdefaults hoverrides hfile
    obtain ⟨o, ho⟩ := exists_ok_of_isNone (x := ofLayers [defaults, fields, overrides])
      (by decide +kernel)
    have hload := hfile.load defaults overrides
    rw [ho] at hload
    obtain ⟨-, hplain, own, custom, hown, hcustom, hvalues⟩ := hgives o hload
    refine ⟨o, custom, hload, ?_, hcustom, ?_⟩
    · rw [hplain "indent_size" (by decide) (by decide)]
      rfl
    · rw [hvalues "team", if_neg (by decide)]
      rfl
  · have hnone : (Entries.keys ([] : Layer)).Nodup := List.nodup_nil
    obtain ⟨hrefused, hfirst, -, -⟩ := load_layers hdefaults hnone hfile
    have hsize : Misfit (winner? defaults fields []) none
        ⟨"indent_size", .integer, .bool true, none⟩ :=
      ⟨rfl, rfl, fun ⟨_, h⟩ => (nomatch h), rfl⟩
    obtain ⟨fault, hfault⟩ := hrefused.2 ⟨_, hsize⟩
    obtain ⟨f, rfl, -, before, after, hkeys, hfree⟩ := hfirst fault hfault
    have hkeyOrder : keyOrder defaults fields [] = ["indent_size", "team", "imports"] := by decide
    rw [hkeyOrder] at hkeys
    refine ⟨f, hfault, ?_⟩
    cases before with
    | nil => exact (List.cons.inj hkeys).1.symm
    | cons key before =>
      -- the first key of all has a fault, so that no other one can be told before it
      cases (List.cons.inj hkeys).1
      exact absurd List.mem_cons_self (hfree _ hsize)

/-- An integer of one digit too many in the place of imports is no fault that is told. -/
theorem not_loadsAsTold_long_import :
    let overrides : Layer := [("imports", .int ((10 ^ Number.maxDigits : Nat) : Int))]
    ¬ LoadsAsTold (keyOrder defaultLayer [] overrides) (winner? defaultLayer [] overrides) none
      (load {} defaultLayer overrides none) := by
  intro overrides h
  have long : Number.isWritable ((10 ^ Number.maxDigits : Nat) : Int) = false := by
    rw [← Bool.not_eq_true, Number.isWritable_iff, Int.natAbs_natCast]
    generalize Number.maxDigits = digits
    exact lt_irrefl _
  have hload (n : Int) : load {} defaultLayer [("imports", .int n)] none =
      .error (.option ⟨"imports", .texts, .int n, (Json.int n).writeFault? none⟩) := rfl
  have hmisfit : Misfit (winner? defaultLayer [] overrides) none
      ⟨"imports", .texts, _, _⟩ := ⟨rfl, rfl, fun ⟨_, hlist, _⟩ => (nomatch hlist), rfl⟩
  obtain ⟨fault, hfault, told⟩ := h.refused_iff.2 ⟨_, hmisfit⟩
  rw [hload] at hfault
  cases hfault
  rw [OptionsFault.isUntold, OptionFault.isUntold, Json.writeFault?, long] at told
  cases told

end Options

end SdlPhp
