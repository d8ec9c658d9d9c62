import SdlPhp.Proofs.Generation.Items
import SdlPhp.Proofs.Generation.Faults
import SdlPhp.Proofs.Naming.Characters
import SdlPhp.Proofs.Php.File
import SdlPhp.Proofs.Schema.Names
import SdlPhp.Proofs.Text.Blank

/-!
# Generated code read back

The code that is generated for an accepted text is read back by a decoder that knows nothing of the
text and the options: it gives the declarations of the definitions in their order, and nothing else.
Main statement: `decode_code`.
-/

namespace SdlPhp

open Attempt Php
open Php.TypeMap (calledFields)
open Sdl (isNameChar isNameChar_of_mem)

/-! ## Plain texts -/

section Plain

theorem isPlain_of_isNameChar {c : Char} (h : isNameChar c = true) : isPlain c = true :=
  forall_ascii (p := fun c => isNameChar c = true → isPlain c = true) (by decide)
    (lt_of_isNameChar h) h

theorem plain_of_named {name : String} (h : Sdl.Named name) : Plain name :=
  fun c hc => isPlain_of_isNameChar (isNameChar_of_mem h c hc)

theorem plain_convert (case : NameCase) {name : String} (h : Sdl.Named name) :
    Plain (Naming.convert case name) :=
  fun c hc => isPlain_of_isNameChar
    (Naming.isNameChar_of_mem_convert case (isNameChar_of_mem h) c hc)

theorem plain_escape {literal : String} (h : Plain literal) :
    Plain (ReservedWords.caseNames.escape literal) := by
  rw [ReservedWords.escape]
  split
  · refine Plain.append (by decide) fun c hc => h c ?_
    rw [String.toList_ofList] at hc
    exact Text.mem_of_mem_trim hc
  · exact h

theorem plain_withSuffix {name suff : String} (hname : Plain name) (hsuff : Plain suff) :
    Plain (Naming.withSuffix name suff) := by
  rw [Naming.withSuffix]
  split
  · exact hname
  · exact hname.append hsuff

end Plain

/-! ## Legible options -/

/-- The options hold nothing that the decoder goes by. -/
structure Options.Legible (o : Options) : Prop where
  typesPrefix : Plain o.typesPrefix.text
  membersPrefix : Plain o.membersPrefix.text
  listType : Plain o.listType.text
  scalars : ∀ t, o.scalars = .value t → ∀ e ∈ t, Plain e.2
  enumValues : ∀ t, o.enumValues = .value t → ∀ e ∈ t, ∀ l ∈ e.2, Plain l.2
  phpNamespace : ∀ ns, o.phpNamespace = .value (some ns) → '\n' ∉ ns.toList
  imports : ∀ is, o.imports = .value is → ∀ i ∈ is, '\n' ∉ i.toList

section Tables

variable {α : Type} {P : α → Prop}

theorem Entries.of_get?_eq_some {t : Entries α} (h : ∀ e ∈ t, P e.2) {key : String} {value : α}
    (hget : t.get? key = some value) : P value := by
  induction t with
  | nil => cases hget
  | cons e t ih =>
    rw [List.forall_mem_cons] at h
    rw [Entries.get?] at hget
    split at hget
    · cases hget
      exact h.1
    · exact ih h.2 hget

theorem Entries.forall_mem_put {t : Entries α} (h : ∀ e ∈ t, P e.2) {value : α} (hvalue : P value)
    (key : String) : ∀ e ∈ t.put key value, P e.2 := by
  induction t with
  | nil => exact List.forall_mem_singleton.2 hvalue
  | cons e t ih =>
    rw [List.forall_mem_cons] at h
    rw [Entries.put]
    split
    · exact List.forall_mem_cons.2 ⟨hvalue, h.2⟩
    · exact List.forall_mem_cons.2 ⟨h.1, ih h.2⟩

theorem Entries.forall_mem_update {t u : Entries α} (ht : ∀ e ∈ t, P e.2) (hu : ∀ e ∈ u, P e.2) :
    ∀ e ∈ t.update u, P e.2 := by
  induction u generalizing t with
  | nil => exact ht
  | cons e u ih =>
    rw [List.forall_mem_cons] at hu
    exact ih (Entries.forall_mem_put ht hu.1 e.1) hu.2

end Tables

namespace Options

variable {o : Options} {case : NameCase} {r : Registry}

theorem Legible.plain_phpName (h : o.Legible) {name : String} (hname : Sdl.Named name) :
    Plain (o.phpName case name) :=
  h.typesPrefix.append (plain_convert case hname)

theorem Legible.plain_phpInputName (h : o.Legible) {name : String} (hname : Sdl.Named name) :
    Plain (o.phpInputName case name) :=
  plain_withSuffix (h.plain_phpName hname) (by decide)

theorem Legible.plain_phpArgsName (h : o.Legible) {type field : String} (htype : Sdl.Named type)
    (hfield : Sdl.Named field) : Plain (o.phpArgsName case type field) :=
  ((h.plain_phpName htype).append (plain_convert case hfield)).append (by decide)

theorem Legible.plain_scalarName? (h : o.Legible) (ho : o.Checked) {name type : String}
    (hname : o.scalarName? name = some type) : Plain type := by
  obtain ⟨table, htable⟩ := ho.scalars
  rw [Options.scalarName?, htable] at hname
  have hbuiltin : ∀ e ∈ builtinScalars, Plain e.2 := by decide
  exact Entries.of_get?_eq_some (Entries.forall_mem_update hbuiltin (h.scalars table htable)) hname

theorem Legible.plain_phpType (h : o.Legible) (ho : o.Checked) {t : TypeRef}
    (ht : Sdl.Named t.innermost) : Plain (o.phpType case r t) := by
  have hfallback : Plain fallbackName := by decide
  rw [Options.phpType]
  split
  · exact h.listType
  · split
    · cases hname : o.scalarName? t.innermost with
      | none => exact hfallback
      | some type => exact h.plain_scalarName? ho hname
    · exact h.plain_phpInputName ht
    · exact h.plain_phpName ht
    · exact hfallback

theorem Legible.plain_literal (h : o.Legible) (ho : o.Checked) (enum : String) {value : String}
    (hvalue : Sdl.Named value) : Plain (o.literal enum value) := by
  obtain ⟨table, htable⟩ := ho.enumValues
  rw [Options.literal, htable]
  simp only [Setting.value?, Option.bind_some]
  cases hliteral : ((table.get? enum).bind (·.get? value)).filter (!·.isEmpty) with
  | none => exact plain_of_named hvalue
  | some literal =>
    obtain ⟨overrides, hoverrides, hget⟩ :=
      Option.bind_eq_some_iff.1 (Option.filter_eq_some_iff.1 hliteral).1
    have := Entries.of_get?_eq_some (P := fun t => ∀ l ∈ t, Plain l.2)
      (h.enumValues table htable) hoverrides
    exact Entries.of_get?_eq_some this hget

theorem isIndentChar_of_mem_spaces {n : Int} {unit : String} (h : spaces n = .ok unit) :
    ∀ c ∈ unit.toList, Text.isIndentChar c = true := by
  rw [spaces] at h
  split at h
  · cases h
  · split at h
    · cases h
    · cases h
      intro c hc
      rw [String.toList_ofList] at hc
      rw [List.eq_of_mem_replicate hc]
      rfl

theorem isIndentChar_of_mem_indent {unit : String} (h : o.indent = .ok unit) :
    ∀ c ∈ unit.toList, Text.isIndentChar c = true := by
  rw [Options.indent] at h
  split at h
  · cases h
    exact List.forall_mem_singleton.2 rfl
  · split at h
    · exact isIndentChar_of_mem_spaces h
    · exact isIndentChar_of_mem_spaces h
    · cases h

theorem isIndentChar_of_mem_indentText (o : Options) :
    ∀ c ∈ o.indentText.toList, Text.isIndentChar c = true := by
  rw [Options.indentText]
  cases hindent : o.indent with
  | ok unit => exact isIndentChar_of_mem_indent hindent
  | error fault => exact List.forall_mem_nil _

end Options

/-! ## Legible files -/

theorem newline_not_mem_namespaceOfDirectory (directory : String) :
    '\n' ∉ (namespaceOfDirectory directory).toList := by
  rw [namespaceOfDirectory, namespaceOfSegments]
  split
  · decide
  · intro hmem
    rw [String.toList_intercalate] at hmem
    rcases Text.mem_join hmem with hsep | ⟨segment, hsegment, hmem⟩
    · cases hsep
    · obtain ⟨text, htext, rfl⟩ := List.mem_map.1 hsegment
      rw [namespaceSegments, List.mem_filter] at htext
      obtain ⟨part, -, rfl⟩ := List.mem_map.1 htext.1
      rw [Naming.toPascal, String.toList_ofList] at hmem
      exact absurd (Naming.isAlphanum_of_mem_pascal _ _ hmem) (by decide)

/-- The line of the namespace is one line. -/
theorem Options.Legible.newline_not_mem_namespace {o : Options} (h : o.Legible) (ho : o.Checked)
    {ns : String} (hns : resolveNamespace o = .ok (.value ns)) : '\n' ∉ ns.toList := by
  obtain ⟨name, hname, hsource⟩ := ho.usable.resolveNamespace
  rw [hname] at hns
  cases hns
  rcases hsource with hgiven | ⟨directory, rfl⟩
  · exact h.phpNamespace _ hgiven
  · exact newline_not_mem_namespaceOfDirectory directory

section Items

variable {o : Options} {case : NameCase} {r : Registry}

theorem Options.Legible.parameter (h : o.Legible) (ho : o.Checked) {v : InputValue}
    (hv : Sdl.Named v.name ∧ Sdl.Named v.type.innermost) :
    (o.parameter case r v).Legible o :=
  ⟨h.plain_phpType ho hv.2, h.membersPrefix.append (plain_of_named hv.1)⟩

theorem Options.Legible.items (h : o.Legible) (ho : o.Checked) {d : Definition} (hd : d.Named) :
    ∀ i ∈ d.items o case r, i.Legible o := by
  cases d with
  | enum name values description =>
    refine List.forall_mem_singleton.2 ⟨h.plain_phpName hd.name, ?_, ?_⟩
    · refine List.forall_mem_map.2 fun v hv => plain_escape ?_
      exact h.plain_literal ho name (hd.enumValues v hv)
    · exact Options.isIndentChar_of_mem_indentText o
  | input name fields description =>
    refine List.forall_mem_singleton.2 ⟨h.plain_phpInputName hd.name, ?_⟩
    exact List.forall_mem_map.2 fun v hv => h.parameter ho (hd.inputValues v hv)
  | object name fields description =>
    refine List.forall_mem_map.2 fun f hf => ?_
    have hfield : f ∈ fields := (List.mem_filter.1 hf).1
    refine ⟨h.plain_phpArgsName hd.name (hd.objectFields f hfield), ?_⟩
    refine List.forall_mem_map.2 fun v hv => h.parameter ho (hd.inputValues v ?_)
    exact List.mem_flatMap.2 ⟨f, hfield, hv⟩

end Items

/-! ## What is read back -/

section Declared

variable (o : Options) (case : NameCase) (r : Registry)

/-- What the values of a class are read back as: each with its type and the name of its
parameter. -/
def Options.declaredValue (v : InputValue) : String × String :=
  (o.phpType case r v.type, o.membersPrefix.text ++ v.name)

/-- What a definition is read back as. -/
def Definition.declared : Definition → List Declared
  | enum name values _ =>
    [.enumeration (o.phpName case name)
      (values.map fun v => ReservedWords.caseNames.escape (o.literal name v.name))]
  | input name fields _ =>
    [.dataClass (o.phpInputName case name) (fields.map (o.declaredValue case r))]
  | object name fields _ =>
    (calledFields fields).map fun f =>
      .dataClass (o.phpArgsName case name f.name) (f.arguments.map (o.declaredValue case r))

theorem Definition.map_declared_items (d : Definition) :
    (d.items o case r).map (Item.declared o) = d.declared o case r := by
  have hvalues : ∀ vs : List InputValue,
      (vs.map (o.parameter case r)).map (Parameter.declared o) = vs.map (o.declaredValue case r) :=
    fun vs => List.map_map
  cases d with
  | enum name values description => rfl
  | input name fields description =>
    rw [Definition.declared, ← hvalues]
    rfl
  | object name fields description =>
    rw [Definition.declared, Definition.items, List.map_map]
    refine List.map_congr_left fun f _ => ?_
    rw [← hvalues]
    rfl

end Declared

/-! ## Bodies -/

section Bodies

variable {o : Options} {case : NameCase} {s : Schema}

theorem marks_intercalate (ts : List String) :
    marks ("\n".intercalate ts).toList = ts.flatMap (marks ·.toList) := by
  rw [String.toList_intercalate]
  exact (marks_unlines _).trans (List.flatMap_map _ _ _)

/-- The lines of a definition say what its items say. -/
theorem marks_text? (h : o.Legible) (ho : o.Checked) {d : Definition} (hd : d.Named) :
    (d.text? o case s.registry).toList.flatMap (marks ·.toList) =
      (d.items o case s.registry).flatMap (Item.marks o) := by
  rw [Definition.text?]
  split
  · rename_i hempty
    rw [List.isEmpty_iff.1 hempty]
    rfl
  · rw [Option.toList_some, List.flatMap_singleton, marks_intercalate, List.flatMap_map]
    exact List.flatMap_congr fun i hi => marks_item (h.items ho hd i hi)

theorem marks_body (h : o.Legible) (ho : o.Checked) (hs : ∀ d ∈ s.definitions, d.Named) :
    marks (s.body o case).toList =
      (s.definitions.flatMap (·.items o case s.registry)).flatMap (Item.marks o) := by
  rw [Schema.body, marks_intercalate, List.filterMap_eq_flatMap_toList, List.flatMap_assoc,
    List.flatMap_assoc]
  exact List.flatMap_congr fun d hd => marks_text? h ho (hs d hd)

/-- The code of a run is read back as what the definitions declare. -/
theorem decode_code_of_run (h : o.Legible) (ho : o.Checked) (hcase : o.nameCase = .ok case)
    (hs : ∀ d ∈ s.definitions, d.Named) {generated : Generated}
    (hrun : Generator.run { options := o } s = .ok generated) :
    decode generated.code = s.definitions.flatMap (·.declared o case s.registry) := by
  obtain ⟨f, hcode, hns, himports, hbody⟩ := Generator.code_of_run_ok ho hcase hrun
  have hmarks : marks f.plainText.toList =
      (s.definitions.flatMap (·.items o case s.registry)).flatMap (Item.marks o) := by
    rw [f.marks_plainText (h.newline_not_mem_namespace ho hns) (h.imports _ himports), hbody,
      String.toList_ofList, marks_dropTrailing, marks_body h ho hs]
  rw [decode, hcode, f.text_eq, hmarks, gather_items, List.map_flatMap]
  exact List.flatMap_congr fun d _ => d.map_declared_items o case s.registry

/-- No decoded case is `class` or `new` in any letter case. -/
theorem lower_ne_of_mem_declared {ds : List Definition} {r : Registry} {name : String}
    {cases : List String}
    (h : .enumeration name cases ∈ ds.flatMap (·.declared o case r)) :
    ∀ c ∈ cases, ∀ word ∈ ["class", "new"], Naming.lower c.toList ≠ word.toList := by
  obtain ⟨d, -, hd⟩ := List.mem_flatMap.1 h
  cases d with
  | enum enumName values description =>
    rw [Definition.declared, List.mem_singleton] at hd
    injection hd with _ hcases
    rw [hcases]
    refine List.forall_mem_map.2 fun v _ word hword => ?_
    exact ReservedWords.lower_escape_ne _ hword
  | input inputName fields description =>
    rw [Definition.declared, List.mem_singleton] at hd
    cases hd
  | object objectName fields description =>
    obtain ⟨f, -, hf⟩ := List.mem_map.1 hd
    cases hf

end Bodies

/-! ## Files of accepted texts -/

section Accepted

variable {o : Options} {case : NameCase} {s : Schema}

/-- The file for an accepted text is there unless an enum needs an indentation that has no text, and
it is read back as what the definitions declare, whatever the descriptions are. -/
theorem decode_code {w : World} {defaults overrides : Layer} {file : Option String} {sdl : String}
    (hload : Options.load w defaults overrides file = .ok o) (hcase : o.nameCase = .ok case)
    (hlegible : o.Legible) (hparse : Schema.parse sdl = .ok s) :
    ((∃ generated, Generator.run { options := o } s = .ok generated) ↔
      (∃ unit, o.indent = .ok unit) ∨ ∀ d ∈ s.definitions, d.kind ≠ .enum) ∧
    ∀ generated, Generator.run { options := o } s = .ok generated →
      decode generated.code = s.definitions.flatMap (·.declared o case s.registry) ∧
      ∀ name cases, .enumeration name cases ∈ decode generated.code →
        ∀ c ∈ cases, ∀ word ∈ ["class", "new"], Naming.lower c.toList ≠ word.toList := by
  have ho := Options.load_checked hload
  refine ⟨Generator.exists_run_ok_iff ho hcase hparse, fun generated hrun => ?_⟩
  have hdecode := decode_code_of_run hlegible ho hcase (parse_named hparse) hrun
  refine ⟨hdecode, fun name cases hmem => ?_⟩
  rw [hdecode] at hmem
  exact lower_ne_of_mem_declared hmem

/-- The lines of a description are none of the file's, even without indentation. -/
theorem decode_code_described :
    let sdl := "\"\"\"Hides\n enum Other \x7b\ncase X;\nclass Y\"\"\" " ++
      "enum color \x7b RED NEW \x7d " ++
      "input Point \x7b \"case Z;\" at: Int! to: [Point!] paint: color \x7d " ++
      "type Query \x7b near(point: Point!, n: Float): Int far: Int \x7d"
    let o : Options :=
      { indentSize := .value 0
        typesPrefix := .value "Api"
        enumValues := .value [("color", [("RED", "Class")])] }
    let declared : List Declared :=
      [.enumeration "ApiColor" ["_Class", "_NEW"],
        .dataClass "ApiPointInput" [("int", "at"), ("Iterable", "to"), ("ApiColor", "paint")],
        .dataClass "ApiQueryNearArgs" [("ApiPointInput", "point"), ("float", "n")]]
    ∃ generated, (Schema.parse sdl).toOption.map (Generator.run { options := o }) =
        some (.ok generated) ∧
      decode generated.code = declared := by
  intro sdl o declared
  have hload : Options.load {} Options.defaultLayer
      [("types_prefix", .text "Api"), ("indent_size", .int 0),
        ("enum_values", .object [("color", .object [("RED", .text "Class")])])] none = .ok o := rfl
  have hcase : o.nameCase = .ok .pascal := rfl
  have hlegible : o.Legible := by
    refine ⟨by decide, by decide, by decide, ?_, ?_, ?_, ?_⟩
    · rintro _ ⟨⟩
      decide
    · rintro _ ⟨⟩
      decide
    · rintro _ ⟨⟩
    · rintro _ ⟨⟩
      decide
  obtain ⟨s, hs⟩ := exists_ok_of_isNone (x := Schema.parse sdl) (by decide +kernel)
  obtain ⟨hruns, hread⟩ := decode_code hload hcase hlegible hs
  obtain ⟨generated, hrun⟩ := hruns.2 (Or.inl ⟨"", rfl⟩)
  have hdeclared : (Schema.parse sdl).toOption.map (fun s =>
      s.definitions.flatMap (·.declared o .pascal s.registry)) = some declared := by
    decide +kernel
  rw [hs] at hdeclared ⊢
  refine ⟨generated, congrArg some hrun, ?_⟩
  rw [(hread generated hrun).1]
  exact Option.some.inj hdeclared

end Accepted

end SdlPhp
