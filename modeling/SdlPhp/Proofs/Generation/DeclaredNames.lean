import SdlPhp.Proofs.Generation.Faults
import SdlPhp.Proofs.Generation.Items
import SdlPhp.Proofs.Text.Pieces

/-!
# Names of declarations

The declarations of a file get their names by three rules: an enum has its converted name, an input
object has it with the suffix `Input`, and a field with arguments has the converted names of its type
and itself with `Args` behind them. Nothing keeps the names apart. Two declarations get one name
exactly when they clash, which can be told from the converted names (`phpName_eq_iff`), and so the
names of a file are distinct exactly when no two of its declarations clash
(`declaredNames_nodup_iff`).
-/

namespace SdlPhp

open Attempt Php
open Naming (convert)
open Php.TypeMap (calledFields)

/-! ## What is declared -/

/-- What a declaration is made for: an enum, an input object, or a field of an object. -/
inductive Origin
  | enum (name : String)
  | input (name : String)
  | field (type name : String)
  deriving DecidableEq, Repr

/-- What a definition has declarations for, in their order. -/
def Definition.origins : Definition → List Origin
  | enum name _ _ => [.enum name]
  | input name _ _ => [.input name]
  | object name fields _ => (calledFields fields).map fun f => .field name f.name

def Schema.origins (s : Schema) : List Origin := s.definitions.flatMap (·.origins)

/-- The items that a schema makes a file declare under options, in their order. -/
def Schema.Declares (o : Options) (s : Schema) (items : List Item) : Prop :=
  ∃ m lists, TypeMap.ofOptions s.registry o = .ok m ∧ s.definitions.mapM m.items = .ok lists ∧
    items = lists.flatten

/-- The name of a declaration in a file. -/
def Origin.phpName (o : Options) (case : NameCase) : Origin → String
  | enum name => o.phpName case name
  | input name => o.phpInputName case name
  | field type name => o.phpArgsName case type name

/-! ## Clashes -/

section Clashes

variable (case : NameCase) (pre : String)

/-- The converted name ends in `Input` behind the prefix, so that it gets no suffix. -/
def EndsInInput (name : String) : Prop := "Input".toList <:+ (pre ++ convert case name).toList

/-- The name of the second input object is that of the first one with its suffix. -/
def IsSuffixedAs (name other : String) : Prop :=
  convert case other = convert case name ++ "Input" ∧ ¬ EndsInInput case pre name

/-- Declarations that get one name behind a prefix. That of an input object ends in `Input` and that
of a field in `Args`, so these two never clash. -/
def Clash : Origin → Origin → Prop
  | .enum a, .enum b => convert case a = convert case b
  | .input a, .input b =>
    convert case a = convert case b ∨ IsSuffixedAs case pre a b ∨ IsSuffixedAs case pre b a
  | .field t f, .field u g => convert case t ++ convert case f = convert case u ++ convert case g
  | .enum a, .input b | .input b, .enum a =>
    (convert case a = convert case b ∧ EndsInInput case pre b) ∨ IsSuffixedAs case pre b a
  | .enum a, .field t f | .field t f, .enum a =>
    convert case a = convert case t ++ convert case f ++ "Args"
  | .input _, .field _ _ | .field _ _, .input _ => False

/-- Whether two declarations clash can be told. -/
instance (a b : Origin) : Decidable (Clash case pre a b) :=
  match a, b with
  | .enum _, .enum _ => inferInstanceAs (Decidable (_ = _))
  | .input _, .input _ => inferInstanceAs (Decidable (_ ∨ (_ ∧ ¬ _ <:+ _) ∨ (_ ∧ ¬ _ <:+ _)))
  | .field _ _, .field _ _ => inferInstanceAs (Decidable (_ = _))
  | .enum _, .input _ => inferInstanceAs (Decidable ((_ ∧ _ <:+ _) ∨ (_ ∧ ¬ _ <:+ _)))
  | .input _, .enum _ => inferInstanceAs (Decidable ((_ ∧ _ <:+ _) ∨ (_ ∧ ¬ _ <:+ _)))
  | .enum _, .field _ _ => inferInstanceAs (Decidable (_ = _))
  | .field _ _, .enum _ => inferInstanceAs (Decidable (_ = _))
  | .input _, .field _ _ => inferInstanceAs (Decidable False)
  | .field _ _, .input _ => inferInstanceAs (Decidable False)

end Clashes

section Names

variable {o : Options} {case : NameCase}

theorem phpInputName_of_endsInInput {name : String}
    (h : EndsInInput case o.typesPrefix.text name) :
    o.phpInputName case name = o.typesPrefix.text ++ convert case name := by
  rw [Options.phpInputName, Options.phpName, Naming.withSuffix,
    if_pos (List.isSuffixOf_iff_suffix.2 h)]

theorem phpInputName_of_not_endsInInput {name : String}
    (h : ¬ EndsInInput case o.typesPrefix.text name) :
    o.phpInputName case name = o.typesPrefix.text ++ (convert case name ++ "Input") := by
  rw [Options.phpInputName, Options.phpName, Naming.withSuffix,
    if_neg fun hsuffix => h (List.isSuffixOf_iff_suffix.1 hsuffix), String.append_assoc]

theorem endsInInput_congr {pre a b : String} (h : convert case a = convert case b) :
    EndsInInput case pre a ↔ EndsInInput case pre b := by
  rw [EndsInInput, EndsInInput, h]

theorem IsSuffixedAs.endsInInput {pre a b : String} (h : IsSuffixedAs case pre a b) :
    EndsInInput case pre b := by
  rw [EndsInInput, h.1, String.toList_append, String.toList_append]
  exact (List.suffix_append _ _).trans (List.suffix_append _ _)

theorem phpName_eq_phpInputName_iff {a b : String} :
    o.phpName case a = o.phpInputName case b ↔
      (convert case a = convert case b ∧ EndsInInput case o.typesPrefix.text b) ∨
        IsSuffixedAs case o.typesPrefix.text b a := by
  by_cases hb : EndsInInput case o.typesPrefix.text b
  · rw [phpInputName_of_endsInInput hb, Options.phpName, String.append_right_inj, IsSuffixedAs]
    simp [hb]
  · rw [phpInputName_of_not_endsInInput hb, Options.phpName, String.append_right_inj, IsSuffixedAs]
    simp [hb]

/-- Two input objects get one class name if their converted names are equal, or if one of them is
the other with the suffix that the other is given. -/
theorem phpInputName_eq_iff {a b : String} :
    o.phpInputName case a = o.phpInputName case b ↔
      convert case a = convert case b ∨ IsSuffixedAs case o.typesPrefix.text a b ∨
        IsSuffixedAs case o.typesPrefix.text b a := by
  by_cases ha : EndsInInput case o.typesPrefix.text a
  · have hname : o.phpInputName case a = o.phpName case a := by
      rw [phpInputName_of_endsInInput ha, Options.phpName]
    have hab : ¬ IsSuffixedAs case o.typesPrefix.text a b := fun h => h.2 ha
    rw [hname, phpName_eq_phpInputName_iff]
    constructor
    · rintro (⟨h, -⟩ | h)
      · exact .inl h
      · exact .inr (.inr h)
    · rintro (h | h | h)
      · exact .inl ⟨h, (endsInInput_congr h).1 ha⟩
      · exact absurd h hab
      · exact .inr h
  · by_cases hb : EndsInInput case o.typesPrefix.text b
    · have hname : o.phpInputName case b = o.phpName case b := by
        rw [phpInputName_of_endsInInput hb, Options.phpName]
      rw [hname, eq_comm, phpName_eq_phpInputName_iff]
      constructor
      · rintro (⟨-, h⟩ | h)
        · exact absurd h ha
        · exact .inr (.inl h)
      · rintro (h | h | h)
        · exact absurd ((endsInInput_congr h).2 hb) ha
        · exact .inr h
        · exact absurd h.endsInInput ha
    · rw [phpInputName_of_not_endsInInput ha, phpInputName_of_not_endsInInput hb,
        String.append_right_inj, String.append_left_inj]
      constructor
      · exact .inl
      · rintro (h | h | h)
        · exact h
        · exact absurd h.endsInInput hb
        · exact absurd h.endsInInput ha

/-- Whatever the names are, the class of an input object ends in another letter than that of the
arguments of a field. -/
theorem phpInputName_ne_phpArgsName (a t f : String) :
    o.phpInputName case a ≠ o.phpArgsName case t f := by
  have hinput : "Input".toList <:+ (o.phpInputName case a).toList := by
    by_cases ha : EndsInInput case o.typesPrefix.text a
    · rw [phpInputName_of_endsInInput ha]
      exact ha
    · rw [phpInputName_of_not_endsInInput ha, String.toList_append, String.toList_append]
      exact (List.suffix_append _ _).trans (List.suffix_append _ _)
  have hargs : "Args".toList <:+ (o.phpArgsName case t f).toList := by
    rw [Options.phpArgsName, String.toList_append]
    exact List.suffix_append _ _
  intro heq
  rw [heq] at hinput
  exact absurd (List.suffix_of_suffix_length_le hargs hinput (by decide)) (by decide)

/-- Two declarations get one name exactly when they clash. -/
theorem phpName_eq_iff (a b : Origin) :
    a.phpName o case = b.phpName o case ↔ Clash case o.typesPrefix.text a b := by
  have henum : ∀ n t f, o.phpName case n = o.phpArgsName case t f ↔
      convert case n = convert case t ++ convert case f ++ "Args" := by
    intro n t f
    rw [Options.phpArgsName, Options.phpName, Options.phpName, String.append_assoc,
      String.append_assoc, String.append_right_inj, String.append_assoc]
  cases a with
  | enum a =>
    cases b with
    | enum b => exact String.append_right_inj _
    | input b => exact phpName_eq_phpInputName_iff
    | field t f => exact henum a t f
  | input a =>
    cases b with
    | enum b => exact eq_comm.trans phpName_eq_phpInputName_iff
    | input b => exact phpInputName_eq_iff
    | field t f => exact iff_of_false (phpInputName_ne_phpArgsName a t f) id
  | field t f =>
    cases b with
    | enum b => exact eq_comm.trans (henum b t f)
    | input b => exact iff_of_false (phpInputName_ne_phpArgsName b t f).symm id
    | field u g =>
      rw [Origin.phpName, Origin.phpName, Options.phpArgsName, Options.phpArgsName,
        String.append_left_inj, Options.phpName, Options.phpName, String.append_assoc,
        String.append_assoc, String.append_right_inj]
      rfl

end Names

/-! ## Items of a run -/

section Items

variable {o : Options} {case : NameCase} {s : Schema}

theorem Definition.map_name_items (r : Registry) (d : Definition) :
    (d.items o case r).map Item.name = d.origins.map (Origin.phpName o case) := by
  cases d with
  | enum name values description => rfl
  | input name fields description => rfl
  | object name fields description => simp [Definition.items, Definition.origins, Item.name,
      Origin.phpName]

/-- With a naming convention the declarations have the names of what they are made for. -/
theorem Schema.Declares.map_name (ho : o.Checked) (hcase : o.nameCase = .ok case)
    {items : List Item} (h : s.Declares o items) :
    items.map Item.name = s.origins.map (Origin.phpName o case) := by
  obtain ⟨m, lists, hbuilt, hlists, rfl⟩ := h
  obtain ⟨n, hn, hm⟩ := ho.usable.typeMap s.registry
  cases hbuilt.symm.trans hn
  have hitems := eq_map_of_mapM_eq_ok hlists fun d _ is his => hm.items_ok ho hcase his
  rw [hitems, Schema.origins, List.map_flatten, List.map_map, List.map_flatMap, List.flatMap_def]
  exact congrArg List.flatten (List.map_congr_left fun d _ => d.map_name_items s.registry)

/-- Without a naming convention nothing can be declared. -/
theorem Schema.Declares.eq_nil (ho : o.Checked) {fault : ConventionFault}
    (hcase : o.nameCase = .error fault) {items : List Item} (h : s.Declares o items) :
    items = [] := by
  obtain ⟨m, lists, hbuilt, hlists, rfl⟩ := h
  obtain ⟨n, hn, hm⟩ := ho.usable.typeMap s.registry
  cases hbuilt.symm.trans hn
  have hsilent : ∀ d ∈ s.definitions, ∀ is, m.items d = .ok is → is = [] := by
    intro d _ is his
    have hfault := hm.fault?_items ho.usable d
    rw [his, fault?_ok] at hfault
    have htype := (Definition.fault?_eq_none_iff.1 hfault.symm).2
    rw [Definition.typeFault?, declarationFault?, hcase] at htype
    split at htype
    · cases htype
    · rename_i hemits
      cases d with
      | enum name values description => exact absurd rfl hemits
      | input name fields description => exact absurd rfl hemits
      | object name fields description =>
        have hcalled : calledFields fields = [] := by
          simpa [calledFields, Definition.isEmitting] using hemits
        rw [TypeMap.items, hcalled] at his
        exact (pure_eq_ok.1 his).symm
  rw [eq_map_of_mapM_eq_ok hlists hsilent]
  exact List.flatten_eq_nil_iff.2 (List.forall_mem_map.2 fun _ _ => rfl)

/-- The texts of lists of items, without the empty ones, are those of all their items. -/
theorem intercalate_texts (o : Options) (lists : List (List Item)) :
    "\n".intercalate (lists.filterMap fun is =>
        if is.isEmpty then none else some ("\n".intercalate (is.map (Item.text o)))) =
      "\n".intercalate (lists.flatten.map (Item.text o)) := by
  let lines (is : List Item) : List (List Char) := is.map fun i => (i.text o).toList
  have htexts : (lists.filterMap fun is =>
      if is.isEmpty then none else some ("\n".intercalate (is.map (Item.text o)))).map
        String.toList = ((lists.map lines).filter (!·.isEmpty)).map (Text.join '\n') := by
    induction lists with
    | nil => rfl
    | cons is lists ih =>
      cases is with
      | nil => exact ih
      | cons i is =>
        refine congrArg₂ List.cons ?_ ih
        rw [String.toList_intercalate, List.map_map]
        rfl
  rw [← String.toList_inj, String.toList_intercalate, String.toList_intercalate, htexts,
    List.map_map, List.map_flatten]
  exact Text.join_join (lists.map lines)

/-- The code of a run is the file around the texts of all items. -/
theorem Generator.exists_declares_of_run (ho : o.Checked) {generated : Generated}
    (h : Generator.run { options := o } s = .ok generated) :
    ∃ (items : List Item) (f : SourceFile), s.Declares o items ∧
      generated.code = f.text true ∧
      f.body = String.ofList (Text.dropTrailing '\n'
        ("\n".intercalate (items.map (Item.text o))).toList) := by
  obtain ⟨m, hbuilt, hm⟩ := ho.usable.typeMap s.registry
  obtain ⟨ns, -, h⟩ := bind_eq_ok.1 h
  obtain ⟨warnings, -, h⟩ := bind_eq_ok.1 h
  obtain ⟨code, hcode, h⟩ := bind_eq_ok.1 h
  obtain ⟨texts, htexts, hcode⟩ := bind_eq_ok.1 hcode
  obtain ⟨f, hf, hcode⟩ := map_eq_ok.1 (mapError_eq_ok.1 hcode)
  obtain ⟨found, hfound, rfl⟩ := map_eq_ok.1 htexts
  let textOf (is : List Item) : Option String :=
    if is.isEmpty then none else some ("\n".intercalate (is.map (Item.text o)))
  have hdefinition : Generator.definition { options := o } s = fun d => (m.items d).map textOf := by
    funext d
    rw [Generator.definition, Generator.typeMap, hbuilt]
    change (m.items d).map _ = _
    rw [hm.options]
  rw [hdefinition, mapM_map] at hfound
  obtain ⟨lists, hlists, rfl⟩ := map_eq_ok.1 hfound
  obtain ⟨name, hname, -⟩ := ho.usable.resolveNamespace
  obtain ⟨imports, -, hfile⟩ := ho.ofBody hname ("\n".intercalate
    ((lists.map textOf).filterMap id))
  cases hf.symm.trans hfile
  rw [← pure_eq_ok.1 h, ← hcode]
  refine ⟨lists.flatten, _, ⟨m, lists, hbuilt, hlists, rfl⟩, rfl, ?_⟩
  rw [← intercalate_texts, List.filterMap_map]
  rfl

/-- In the code of a run the names of the declarations are distinct exactly when no two of them
clash; nothing is declared without a naming convention. -/
theorem declaredNames_nodup_iff {w : World} {defaults overrides : Layer} {file : Option String}
    (hload : Options.load w defaults overrides file = .ok o) {generated : Generated}
    (hrun : Generator.run { options := o } s = .ok generated) :
    ∃ (items : List Item) (f : SourceFile), s.Declares o items ∧
      generated.code = f.text true ∧
      f.body = String.ofList (Text.dropTrailing '\n'
        ("\n".intercalate (items.map (Item.text o))).toList) ∧
      ((items.map Item.name).Nodup ↔
        ∀ case, o.nameCase = .ok case →
          s.origins.Pairwise fun a b => ¬ Clash case o.typesPrefix.text a b) := by
  have ho := Options.load_checked hload
  obtain ⟨items, f, hitems, hcode, hbody⟩ := Generator.exists_declares_of_run ho hrun
  refine ⟨items, f, hitems, hcode, hbody, ?_⟩
  cases hcase : o.nameCase with
  | error fault =>
    rw [hitems.eq_nil ho hcase]
    exact iff_of_true List.nodup_nil fun _ h => nomatch h
  | ok case =>
    have hnames : (items.map Item.name).Nodup ↔
        s.origins.Pairwise fun a b => ¬ Clash case o.typesPrefix.text a b := by
      rw [hitems.map_name ho hcase, List.Nodup, List.pairwise_map]
      simp only [ne_eq, phpName_eq_iff]
    rw [hnames]
    constructor
    · rintro h _ ⟨⟩
      exact h
    · exact fun h => h case rfl

/-- An enum, an input object and a field with names that hold each other do not clash. -/
theorem declaredNames_nodup_color :
    let sdl := "type Color { input(point: ColorInput): Int plain: Int } enum ColorArgs { RED } " ++
      "input ColorInput { next: ColorInput }"
    ∃ o s generated items, Options.load {} Options.defaultLayer
        [("types_prefix", .text "Api"), ("naming_convention", .text "keep")] none = .ok o ∧
      Schema.parse sdl = .ok s ∧ Generator.run { options := o } s = .ok generated ∧
      s.Declares o items ∧ (items.map Item.name).Nodup := by
  intro sdl
  let o : Options := { typesPrefix := .value "Api", namingConvention := .value "keep" }
  have hload : Options.load {} Options.defaultLayer
      [("types_prefix", .text "Api"), ("naming_convention", .text "keep")] none = .ok o := rfl
  obtain ⟨s, hs⟩ := exists_ok_of_isNone (x := Schema.parse sdl) (by decide +kernel)
  have hcase : o.nameCase = .ok .keep := rfl
  obtain ⟨generated, hrun⟩ :=
    (Generator.exists_run_ok_iff (Options.load_checked hload) hcase hs).2 (.inl ⟨"    ", rfl⟩)
  obtain ⟨items, f, hitems, -, -, hnodup⟩ := declaredNames_nodup_iff hload hrun
  refine ⟨o, s, generated, items, hload, hs, hrun, hitems, hnodup.2 ?_⟩
  rintro _ ⟨⟩
  have horigins : (Schema.parse sdl).toOption.map Schema.origins =
      some [.field "Color" "input", .enum "ColorArgs", .input "ColorInput"] := by decide +kernel
  rw [hs] at horigins
  rw [Option.some.inj horigins]
  decide

/-- The class of an input object gets the name of another one by its suffix. -/
theorem not_declaredNames_nodup_suffix :
    let sdl := "input Point { x: Int } input PointInput { y: Int }"
    ∃ o s generated items, Options.load {} Options.defaultLayer [] none = .ok o ∧
      Schema.parse sdl = .ok s ∧ Generator.run { options := o } s = .ok generated ∧
      s.Declares o items ∧ ¬ (items.map Item.name).Nodup := by
  intro sdl
  have hload : Options.load {} Options.defaultLayer [] none = .ok {} := rfl
  have ho := Options.load_checked hload
  obtain ⟨s, hs⟩ := exists_ok_of_isNone (x := Schema.parse sdl) (by decide +kernel)
  have hcase : Options.nameCase {} = .ok .pascal := rfl
  obtain ⟨generated, hrun⟩ := (Generator.exists_run_ok_iff ho hcase hs).2 (.inl ⟨"    ", rfl⟩)
  obtain ⟨items, f, hitems, -, -⟩ := Generator.exists_declares_of_run ho hrun
  refine ⟨{}, s, generated, items, hload, hs, hrun, hitems, ?_⟩
  have horigins : (Schema.parse sdl).toOption.map Schema.origins =
      some [.input "Point", .input "PointInput"] := by decide +kernel
  rw [hs] at horigins
  rw [hitems.map_name ho hcase, Option.some.inj horigins]
  decide

end Items

end SdlPhp
