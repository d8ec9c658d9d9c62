import SdlPhp.Proofs.Options.Precedence

/-!
# Custom entries of overrides

A custom entry is set in one of two forms: under its own key at the top of a layer, or in the object
of custom values there. Layers are merged by the keys at their top before the two forms are put
together, and then what stands at the top wins. So the value that the overrides have in their object
of custom values is lost to one that the file or the defaults have at the top. Main statement:
`overridden_iff`.
-/

namespace SdlPhp.Options

open Attempt

variable {w : World} {defaults fields overrides : Layer} {file : Option String} {o : Options}
  {key : String} {v : Json}

/-! ## The two forms -/

/-- The layer sets the custom entry at its top, under a key that is no option. -/
def SetsAtTop (layer : Layer) (key : String) (v : Json) : Prop :=
  key ∉ names ∧ Entries.get? layer key = some v

/-- The layer sets the custom entry in its object of custom values. -/
def SetsInside (layer : Layer) (key : String) (v : Json) : Prop :=
  ∃ own, Entries.get? layer "custom" = some (.object own) ∧ Entries.get? own key = some v

/-- The layer sets the custom entry in one of the forms, or in both of them to the same value. -/
structure Sets (layer : Layer) (key : String) (v : Json) : Prop where
  either : SetsAtTop layer key v ∨ SetsInside layer key v
  top : ∀ u, SetsAtTop layer key u → u = v
  inside : ∀ u, SetsInside layer key u → u = v

/-- The options have this custom entry. -/
def HasCustom (o : Options) (key : String) (v : Json) : Prop :=
  ∃ custom, o.custom = .value custom ∧ Entries.get? custom key = some v

/-- Without the entry at the top of the overrides, one at the top of the layers below wins over the
one in the object of custom values. -/
theorem or_eq_some_iff_of_inside {below : Option Json} :
    below.or (some v) = some v ↔ ∀ u, below = some u → u = v := by
  cases below with
  | none => simp
  | some u => simp

/-! ## Custom entries of loaded options -/

/-- The custom entries of options that were loaded: what is in the object that wins, but under keys
that are no options what wins at the top. -/
theorem hasCustom_iff (hdefaults : (Entries.keys defaults).Nodup)
    (hoverrides : (Entries.keys overrides).Nodup) (hfile : FileGives w file fields)
    (hload : load w defaults overrides file = .ok o) :
    ∃ own, (winner? defaults fields overrides "custom").getD (.object []) = .object own ∧
      ∀ key v, HasCustom o key v ↔
        (if key ∈ names then Entries.get? own key
          else (winner? defaults fields overrides key).or (Entries.get? own key)) = some v := by
  have hlayer : (Entries.keys (merge [defaults, fields, overrides])).Nodup :=
    nodup_keys_merge hdefaults
  rw [hfile.load, mapError_eq_ok] at hload
  obtain ⟨own, custom, hown, hcustom, hvalues⟩ :=
    get?_custom_of_gives hlayer (gives_of_ofLayer hlayer hload)
  rw [get?_merge hfile.nodup hoverrides] at hown hvalues
  refine ⟨own, hown, ?_⟩
  intro key v
  rw [← hvalues]
  constructor
  · rintro ⟨other, hother, hv⟩
    rw [hcustom] at hother
    cases hother
    exact hv
  · exact fun hv => ⟨custom, hcustom, hv⟩

/-- A custom entry that the overrides set is that of the options, whatever the file and the defaults
have, exactly if the overrides have it at their top or the file, or else the defaults, have nothing
else at theirs. -/
theorem overridden_iff (hdefaults : (Entries.keys defaults).Nodup)
    (hoverrides : (Entries.keys overrides).Nodup) (hfile : FileGives w file fields)
    (hload : load w defaults overrides file = .ok o) (hsets : Sets overrides key v) :
    HasCustom o key v ↔
      SetsAtTop overrides key v ∨
        (key ∉ names → ∀ u,
          (Entries.get? fields key).or (Entries.get? defaults key) = some u → u = v) := by
  obtain ⟨own, hown, hiff⟩ := hasCustom_iff hdefaults hoverrides hfile hload
  have hinside (h : SetsInside overrides key v) : Entries.get? own key = some v := by
    obtain ⟨mine, hmine, hv⟩ := h
    rw [winner?, hmine, Option.some_or, Option.getD_some] at hown
    cases hown
    exact hv
  rw [hiff]
  by_cases hkey : key ∈ names
  · -- a key of an option is no custom entry at the top of any layer
    rw [if_pos hkey]
    apply iff_of_true
    · exact hinside (hsets.either.resolve_left fun htop => htop.1 hkey)
    · exact .inr fun hnot => absurd hkey hnot
  · rw [if_neg hkey, winner?]
    cases htop : Entries.get? overrides key with
    | some u =>
      have hu : u = v := hsets.top u ⟨hkey, htop⟩
      subst hu
      rw [Option.some_or, Option.some_or]
      exact iff_of_true rfl (.inl ⟨hkey, htop⟩)
    | none =>
      have hnot (u : Json) : ¬ SetsAtTop overrides key u := by
        rintro ⟨-, hu⟩
        rw [htop] at hu
        cases hu
      rw [Option.none_or, hinside (hsets.either.resolve_left (hnot v)), or_eq_some_iff_of_inside]
      constructor
      · exact fun h => .inr fun _ => h
      · rintro (h | h)
        · exact absurd h (hnot v)
        · exact h hkey

/-- What stands in the object of custom values and nowhere else is set in one form. -/
theorem sets_object (own : Layer) (hkey : key ≠ "custom") (h : Entries.get? own key = some v) :
    Sets [("custom", .object own)] key v where
  either := .inr ⟨own, rfl, h⟩
  top := by
    rintro u ⟨-, hu⟩
    rw [Entries.get?, if_neg hkey.symm] at hu
    cases hu
  inside := by
    rintro u ⟨other, hother, hu⟩
    cases hother
    exact Option.some.inj (hu.symm.trans h)

/-- A file that has another value in the same form, and something else at its top. -/
theorem overridden_iff_inside :
    let w : World := { files := [(["c.json"],
      "\x7b\"custom\": \x7b\"team\": 1\x7d, \"region\": 7\x7d".toUTF8)] }
    ∃ o, load w defaultLayer [("custom", .object [("team", .int 2)])] (some "c.json") = .ok o ∧
      HasCustom o "team" (.int 2) := by
  intro w
  have hkeys : (readLayer w (Path.ofText "c.json")).toOption.map Entries.keys =
      some ["custom", "region"] := by
    decide +kernel
  have hloads : (load w defaultLayer [("custom", .object [("team", .int 2)])]
      (some "c.json")).toOption.isSome = true := by
    decide +kernel
  -- the world is not to be computed with any more
  clear_value w
  cases hread : readLayer w (Path.ofText "c.json") with
  | error fault =>
    rw [hread] at hkeys
    cases hkeys
  | ok fields =>
    rw [hread] at hkeys
    have hfields : Entries.keys fields = ["custom", "region"] := Option.some.inj hkeys
    have hnone : Entries.get? fields "team" = none := by
      rw [Entries.get?_eq_none_iff, hfields]
      decide
    have hfile : FileGives w (some "c.json") fields := readLayer_eq_ok_iff.1 hread
    cases hload : load w defaultLayer [("custom", .object [("team", .int 2)])]
        (some "c.json") with
    | error fault =>
      rw [hload] at hloads
      cases hloads
    | ok o =>
      refine ⟨o, rfl, ?_⟩
      have hsets : Sets [("custom", .object [("team", .int 2)])] "team" (.int 2) :=
        sets_object [("team", .int 2)] (by decide) rfl
      rw [overridden_iff (by decide) (by decide) hfile hload hsets]
      right
      intro _ u hu
      rw [hnone] at hu
      cases hu

/-- A file that has another value at its top. -/
theorem not_overridden_top :
    let w : World := { files := [(["c.json"], "\x7b\"team\": 1\x7d".toUTF8)] }
    let overrides : Layer := [("custom", .object [("team", .int 2)])]
    Sets overrides "team" (.int 2) ∧
      ∃ o, load w defaultLayer overrides (some "c.json") = .ok o ∧
        ¬ HasCustom o "team" (.int 2) := by
  intro w overrides
  have hvalue : ((load w defaultLayer overrides (some "c.json")).toOption.bind fun o =>
      o.custom.value?.bind fun custom => (Entries.get? custom "team").map Json.literal) =
        some "1" := by
    decide +kernel
  refine ⟨sets_object [("team", .int 2)] (by decide) rfl, ?_⟩
  clear_value w
  cases hload : load w defaultLayer overrides (some "c.json") with
  | error fault =>
    rw [hload] at hvalue
    cases hvalue
  | ok o =>
    refine ⟨o, rfl, ?_⟩
    rintro ⟨custom, hcustom, hteam⟩
    have hliteral : some (Json.literal (.int 2)) = some "1" := by
      rw [hload, Except.toOption, Option.bind_some, hcustom, Setting.value?, Option.bind_some,
        hteam] at hvalue
      exact hvalue
    exact absurd hliteral (by decide)

end SdlPhp.Options
