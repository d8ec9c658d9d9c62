import SdlPhp.Options.Layers
import SdlPhp.Proofs.Generation.Noninterference
import SdlPhp.Proofs.Generation.Parts
import SdlPhp.Proofs.Naming.Characters
import SdlPhp.Proofs.Schema.EnumValues
import SdlPhp.Proofs.Schema.Names

/-!
# Names of cases

An enum has a case for each of its values. Unless the options give a literal for it, the case has the
name of the value, and a reserved name is escaped by an underscore. The escaped name is not compared
with those of the other values: two values share the name of a case exactly when one of them has a
reserved name and the other one that name behind an underscore (`escape_eq_iff`). So the cases of an
enum have distinct names exactly when it has no two such values (`enum_cases_nodup_iff`).
-/

namespace SdlPhp

open Attempt Php
open Sdl (Named isNameChar isNameChar_of_mem)

/-! ## Escaped names -/

namespace ReservedWords

variable {r : ReservedWords} {name : String}

/-- The name is a reserved word but for letter case. -/
def Spells (r : ReservedWords) (name : String) : Prop :=
  ∃ word ∈ r.words, Naming.lower name.toList = word.toList

instance : Decidable (r.Spells name) :=
  inferInstanceAs (Decidable (∃ word ∈ r.words, Naming.lower name.toList = word.toList))

theorem trim_of_named (h : Named name) : Text.trim name.toList = name.toList := by
  refine Text.trim_of_not_blank fun c hc => ?_
  have hchar := isNameChar_of_mem h c hc
  exact forall_ascii (p := fun c => isNameChar c = true → Text.isBlank c = false)
    (by decide) (lt_of_isNameChar hchar) hchar

theorem fold_of_named (h : Named name) : fold name = String.ofList (Naming.lower name.toList) := by
  have hascii : ∀ c ∈ name.toList, c.toNat < 128 :=
    fun c hc => lt_of_isNameChar (isNameChar_of_mem h c hc)
  rw [fold, trim_of_named h, Text.lowerCase, Text.lowerAfter_of_lt hascii, Naming.lower]

theorem isReserved_iff_spells (h : Named name) : r.isReserved name = true ↔ r.Spells name := by
  rw [isReserved, List.contains_iff_mem, fold_of_named h]
  constructor
  · exact fun hmem => ⟨_, hmem, String.toList_ofList.symm⟩
  · rintro ⟨word, hword, heq⟩
    rwa [heq, String.ofList_toList]

theorem escape_of_named (hname : Named name) :
    r.escape name = if r.Spells name then r.escapePrefix ++ name else name := by
  rw [escape, trim_of_named hname, String.ofList_toList]
  exact if_congr (isReserved_iff_spells hname) rfl rfl

/-- A name of a case that is behind an underscore is not reserved. -/
theorem not_spells_underscore (name : String) : ¬ caseNames.Spells ("_" ++ name) := by
  have hfirst : ∀ w ∈ caseNames.words, w.toList.head? ≠ some '_' := by decide
  rintro ⟨word, hword, heq⟩
  refine hfirst word hword ?_
  rw [← heq, String.toList_append]
  rfl

/-- Two names are escaped to one only if the one is reserved and the other is the escaped one. -/
theorem escape_eq_iff {a b : String} (ha : Named a) (hb : Named b) (hne : a ≠ b) :
    caseNames.escape a = caseNames.escape b ↔
      (caseNames.Spells a ∧ b = "_" ++ a) ∨ (caseNames.Spells b ∧ a = "_" ++ b) := by
  have hprefix : caseNames.escapePrefix = "_" := rfl
  have hclash : ∀ {x y}, caseNames.Spells y → y ≠ "_" ++ x := by
    rintro x _ hy rfl
    exact not_spells_underscore x hy
  rw [escape_of_named ha, escape_of_named hb, hprefix]
  by_cases hsa : caseNames.Spells a
  · by_cases hsb : caseNames.Spells b
    · rw [if_pos hsa, if_pos hsb, String.append_right_inj]
      simp [hne, hclash hsa, hclash hsb]
    · rw [if_pos hsa, if_neg hsb]
      simp [hsa, hsb, eq_comm]
  · by_cases hsb : caseNames.Spells b
    · rw [if_neg hsa, if_pos hsb]
      simp [hsa, hsb]
    · rw [if_neg hsa, if_neg hsb]
      simp [hsa, hsb, hne]

theorem ne_underscore_append (name : String) : name ≠ "_" ++ name := by
  intro h
  have hlength := congrArg String.length h
  rw [String.length_append] at hlength
  exact absurd hlength (by simp)

/-- Of distinct names none are escaped to one exactly if no reserved name stands beside the escaped
one. -/
theorem nodup_map_escape_iff {names : List String} (hnamed : ∀ n ∈ names, Named n)
    (hnodup : names.Nodup) :
    (names.map caseNames.escape).Nodup ↔
      ∀ n ∈ names, caseNames.Spells n → "_" ++ n ∉ names := by
  rw [List.nodup_map_iff_inj_on hnodup]
  constructor
  · intro h n hn hspells hescaped
    have hne := ne_underscore_append n
    refine hne (h n hn _ hescaped ?_)
    exact (escape_eq_iff (hnamed n hn) (hnamed _ hescaped) hne).2 (.inl ⟨hspells, rfl⟩)
  · intro h a ha b hb heq
    by_contra hne
    rcases (escape_eq_iff (hnamed a ha) (hnamed b hb) hne).1 heq with ⟨hs, rfl⟩ | ⟨hs, rfl⟩
    · exact h a ha hs hb
    · exact h b hb hs ha

end ReservedWords

/-! ## Cases of an enum -/

section Cases

variable {m : TypeMap} {name : String} {values : List EnumValue}

theorem mapM_caseName_of_none (h : ∀ v ∈ values, m.options.enumLiteral? name v.name = .ok none) :
    (values.mapM fun v => caseName m.options name v.name) =
      .ok (values.map fun v => ReservedWords.caseNames.escape v.name) := by
  rw [mapM_eq_ok, List.forall₂_map_right_iff, List.forall₂_same]
  intro v hv
  rw [caseName, enumLiteral, h v hv, Except.map, Option.getD_none]
  rfl

/-- The fragment of an enum is its text, once there are the indentation and the name. -/
theorem fragment_enum_eq_ok_iff {cases : List String} {description : Option String}
    (hcases : (values.mapM fun v => caseName m.options name v.name) = .ok cases)
    {text : Option String} :
    m.fragment (.enum name values description) = .ok text ↔
      ∃ unit phpName, m.options.indent = .ok unit ∧ m.name name = .ok phpName ∧
        text = some (Enumeration.text m.options ⟨phpName, cases, unit, description⟩) := by
  rw [m.fragment_enum, map_eq_ok, TypeMap.enumeration, hcases]
  constructor
  · rintro ⟨e, he, rfl⟩
    obtain ⟨_, ⟨⟩, he⟩ := bind_eq_ok.1 he
    obtain ⟨unit, hunit, he⟩ := bind_eq_ok.1 he
    obtain ⟨phpName, hname, he⟩ := bind_eq_ok.1 he
    rw [← pure_eq_ok.1 he]
    exact ⟨unit, phpName, mapError_eq_ok.1 hunit, mapError_eq_ok.1 hname, rfl⟩
  · rintro ⟨unit, phpName, hunit, hname, rfl⟩
    refine ⟨⟨phpName, cases, unit, description⟩, ?_, rfl⟩
    rw [hunit, hname]
    rfl

/-- Without literals in the options an enum has a case for each value, with the name of the value or
the escaped one, and these are what its text shows. They are distinct exactly when no value has a
reserved name that another one has behind an underscore. -/
theorem enum_cases_nodup_iff {sdl : String} {s : Schema} (hs : Schema.parse sdl = .ok s)
    {description : Option String} (hd : .enum name values description ∈ s.definitions)
    (hnone : ∀ v ∈ values, m.options.enumLiteral? name v.name = .ok none) :
    let isReserved := ReservedWords.caseNames.Spells
    let cases := values.map fun v => if isReserved v.name then "_" ++ v.name else v.name
    (values.mapM fun v => caseName m.options name v.name) = .ok cases ∧
      (∀ text, m.fragment (.enum name values description) = .ok text ↔
        ∃ unit phpName, m.options.indent = .ok unit ∧ m.name name = .ok phpName ∧
          text = some (Enumeration.text m.options ⟨phpName, cases, unit, description⟩)) ∧
      (cases.Nodup ↔ ∀ v ∈ values, isReserved v.name → ∀ w ∈ values, w.name ≠ "_" ++ v.name) := by
  intro isReserved cases
  have hnamed : ∀ n ∈ values.map (·.name), Named n :=
    List.forall_mem_map.2 (parse_named hs _ hd).enumValues
  have hdistinct : (values.map (·.name)).Nodup := parse_enumValues_nodup hs _ hd
  have hescaped : (values.map fun v => ReservedWords.caseNames.escape v.name) = cases := by
    refine List.map_congr_left fun v hv => ?_
    rw [ReservedWords.escape_of_named (hnamed _ (List.mem_map_of_mem hv))]
    rfl
  have hcases := mapM_caseName_of_none hnone
  rw [hescaped] at hcases
  refine ⟨hcases, fun text => fragment_enum_eq_ok_iff hcases, ?_⟩
  have hiff := ReservedWords.nodup_map_escape_iff hnamed hdistinct
  rw [List.map_map, Function.comp_def, List.forall_mem_map] at hiff
  rw [← hescaped, hiff]
  simp only [List.mem_map, not_exists, not_and, ne_eq, isReserved]

/-- Reserved names that no other value has behind an underscore. -/
theorem enum_cases_nodup_action :
    let sdl := "enum Action { new CLASS other _other }"
    ∃ s m values cases, Schema.parse sdl = .ok s ∧ TypeMap.ofOptions s.registry {} = .ok m ∧
      .enum "Action" values none ∈ s.definitions ∧
      (values.mapM fun v => caseName m.options "Action" v.name) = .ok cases ∧
      cases = ["_new", "_CLASS", "other", "_other"] ∧ cases.Nodup := by
  intro sdl
  let values : List EnumValue := [⟨"new", none⟩, ⟨"CLASS", none⟩, ⟨"other", none⟩, ⟨"_other", none⟩]
  have hparsed : (Schema.parse sdl).toOption.map Schema.definitions =
      some [.enum "Action" values none] := by decide +kernel
  obtain ⟨s, hs, hdefinitions⟩ := exists_ok_of_map_toOption hparsed
  have hmem : .enum "Action" values none ∈ s.definitions := by
    rw [hdefinitions]
    exact List.mem_singleton_self _
  have hload : Options.load {} Options.defaultLayer [] none = .ok {} := rfl
  obtain ⟨m, hbuilt, hm⟩ := (Options.load_checked hload).usable.typeMap s.registry
  have hnone : ∀ v ∈ values, m.options.enumLiteral? "Action" v.name = .ok none := by
    rw [hm.options]
    exact fun v _ => rfl
  obtain ⟨hcases, -, hnodup⟩ := enum_cases_nodup_iff hs hmem hnone
  refine ⟨s, m, values, _, hs, hbuilt, hmem, hcases, ?_, hnodup.2 (by decide +kernel)⟩
  decide +kernel

/-- A reserved name beside the escaped one makes two cases of one name. -/
theorem not_enum_cases_nodup_class :
    let sdl := "enum E { class _class }"
    ∃ s m values cases, Schema.parse sdl = .ok s ∧ TypeMap.ofOptions s.registry {} = .ok m ∧
      .enum "E" values none ∈ s.definitions ∧ (values.map (·.name)).Nodup ∧
      (∀ v ∈ values, m.options.enumLiteral? "E" v.name = .ok none) ∧
      (values.mapM fun v => caseName m.options "E" v.name) = .ok cases ∧ ¬ cases.Nodup ∧
      m.fragment (.enum "E" values none) =
        .ok (some " enum E \x7b\n    case _class;\n    case _class;\n\x7d\n") := by
  intro sdl
  let values : List EnumValue := [⟨"class", none⟩, ⟨"_class", none⟩]
  have hparsed : (Schema.parse sdl).toOption.map Schema.definitions =
      some [.enum "E" values none] := by decide +kernel
  obtain ⟨s, hs, hdefinitions⟩ := exists_ok_of_map_toOption hparsed
  have hmem : .enum "E" values none ∈ s.definitions := by
    rw [hdefinitions]
    exact List.mem_singleton_self _
  have hload : Options.load {} Options.defaultLayer [] none = .ok {} := rfl
  obtain ⟨m, hbuilt, hm⟩ := (Options.load_checked hload).usable.typeMap s.registry
  have hnone : ∀ v ∈ values, m.options.enumLiteral? "E" v.name = .ok none := by
    rw [hm.options]
    exact fun v _ => rfl
  have hcases := mapM_caseName_of_none hnone
  have hname : m.name "E" = .ok "E" := by
    rw [TypeMap.name, hm.typeName]
    decide +kernel
  have hindent : m.options.indent = .ok "    " := by
    rw [hm.options]
    rfl
  refine ⟨s, m, values, _, hs, hbuilt, hmem, by decide, hnone, hcases, by decide +kernel, ?_⟩
  refine (fragment_enum_eq_ok_iff hcases).2 ⟨"    ", "E", hindent, hname, ?_⟩
  rw [hm.options]
  decide +kernel

end Cases

end SdlPhp
