import SdlPhp.Proofs.Generation.Faults
import SdlPhp.Proofs.Generation.Items
import SdlPhp.Proofs.Php.File

/-!
# References between declarations

A class takes values of enums and input objects by the names of their declarations. Such a name is
written twice, where it is used and where it is declared, from different parts of the schema: the
registry and the definitions. Both agree, and the declaration is in the same file
(`reference_declared`).
-/

namespace SdlPhp

open Attempt Php Sdl
open Php.TypeMap (calledFields)
open Text (unlines)

/-! ## Definitions of types -/

/-- The standard types that values can be put in for, but for scalars. -/
def introspectionEnums : List String := ["__TypeKind", "__DirectiveLocation"]

/-- The kinds of types that a file declares for values. -/
def declaredKinds : List TypeKind := [.enum, .inputObject]

theorem mem_introspectionEnums :
    ∀ node ∈ standardTypes, node.body.kind ∈ declaredKinds → node.name ∈ introspectionEnums := by
  decide +kernel

section Definitions

variable {d : Document} {names : List String} {s : Schema}

/-- A type that is neither a scalar nor a standard one is that of a definition, if a value takes
it. -/
theorem Built.exists_definition_of_value (h : Built d names s) {x : Definition}
    (hx : x ∈ s.definitions) {v : InputValue} (hv : v ∈ x.inputValues) {kind : TypeKind}
    (hkind : s.registry.kind? v.type.innermost = some kind) (hdeclared : kind ∈ declaredKinds)
    (hstandard : v.type.innermost ∉ introspectionEnums) :
    ∃ y ∈ s.definitions, y.name = v.type.innermost ∧ y.kind = kind := by
  obtain ⟨other, -, hother, hof⟩ := h.value_kind hx hv
  cases hkind.symm.trans hother
  obtain ⟨node, hnode, rfl⟩ := Option.map_eq_some_iff.1 hof
  have hname := findType?_name hnode
  have hmem : v.type.innermost ∈ d.typeNodes.map (·.name) := by
    rcases List.mem_append.1 (findType?_mem hnode) with hstd | hdef
    · rw [← hname] at hstandard
      exact absurd (mem_introspectionEnums node hstd hdeclared) hstandard
    · have hdefined : node.name ∈ (definedTypes d).map (·.name) := List.mem_map_of_mem hdef
      rw [definedTypes_names] at hdefined
      obtain ⟨source, hsource, hsourceName⟩ := List.mem_map.1 hdefined
      exact List.mem_map.2
        ⟨source, (mem_typeDefinitions_iff.1 hsource).1, hsourceName.trans hname⟩
  have hdefined : node.body.kind ∈ definedKinds := List.mem_append_left [TypeKind.object] hdeclared
  obtain ⟨y, hy, hyname⟩ := (h.defined_iff hmem).2 ⟨_, hdefined, hkind⟩
  have hykind := h.kind_eq hy
  rw [hyname, hkind] at hykind
  exact ⟨y, hy, hyname, (Option.some.inj hykind).symm⟩

end Definitions

/-! ## Lines of a file -/

/-- The lines of the text, but for line feeds at its end, stand among those of the code. -/
def StandsIn (text code : String) : Prop :=
  Text.lines (Text.dropTrailing '\n' text.toList) <:+: Text.lines code.toList

theorem lines_infix_intercalate {t : String} {ts : List String} (h : t ∈ ts) :
    Text.lines t.toList <:+: Text.lines ("\n".intercalate ts).toList := by
  have hne : ts.map String.toList ≠ [] := List.ne_nil_of_mem (List.mem_map_of_mem h)
  have hlines : Text.lines ("\n".intercalate ts).toList =
      (ts.map String.toList).flatMap Text.lines := by
    rw [String.toList_intercalate]
    exact Text.pieces_join hne
  rw [hlines, List.flatMap_def]
  exact List.infix_of_mem_flatten (List.mem_map_of_mem (List.mem_map_of_mem h))

namespace Php

/-- The line that opens the declaration of an item. -/
def Item.header : Item → String
  | enumeration e => " enum " ++ e.name ++ " \x7b"
  | dataClass c => "class " ++ c.name

/-- The comment in front of a declaration. -/
def Item.comment (o : Options) : Item → List Char
  | enumeration e => e.comment o
  | dataClass _ => []

/-- Behind its comment a declaration opens with its header. -/
theorem Item.text_opening (o : Options) (i : Item) :
    ∃ rest, (i.text o).toList = i.comment o ++ (i.header.toList ++ '\n' :: rest) := by
  cases i with
  | enumeration e =>
    obtain ⟨l, ls, hls⟩ := List.exists_cons_of_ne_nil
      (List.append_ne_nil_of_right_ne_nil (if e.block.isEmpty then [] else [e.block])
        (List.cons_ne_nil "\x7d".toList []))
    refine ⟨unlines (l :: ls) ++ ['\n'], ?_⟩
    rw [Item.text, e.text_toList, Item.comment, Item.header, List.cons_append, hls, unlines,
      Text.join_cons_cons, String.toList_append, String.toList_append, List.append_assoc]
    rfl
  | dataClass c =>
    rw [Item.text, c.text_toList, Item.comment, Item.header, String.toList_append]
    exact ⟨_, rfl⟩

theorem Item.exists_ne_newline (o : Options) (i : Item) : ∃ c ∈ (i.text o).toList, c ≠ '\n' := by
  obtain ⟨rest, hrest⟩ := i.text_opening o
  have hheader : ∃ c ∈ i.header.toList, c ≠ '\n' := by
    cases i with
    | enumeration e => exact ⟨' ', by simp [Item.header], by decide⟩
    | dataClass c => exact ⟨'c', by simp [Item.header], by decide⟩
  obtain ⟨c, hc, hne⟩ := hheader
  refine ⟨c, ?_, hne⟩
  rw [hrest]
  exact List.mem_append_right _ (List.mem_append_left _ hc)

theorem SourceFile.lines_body_infix (f : SourceFile) :
    Text.lines f.body.toList <:+: Text.lines f.plainText.toList := by
  have hbody : Text.lines f.body.toList <:+: Text.lines (f.body ++ "\n").toList := by
    rw [String.toList_append]
    exact ⟨[], Text.lines [], (Text.pieces_append f.body.toList []).symm⟩
  refine hbody.trans (lines_infix_intercalate ?_)
  exact List.mem_append_right _ List.mem_cons_self

end Php

section Items

variable {o : Options} {case : NameCase} {s : Schema}

/-- What a definition makes a file declare stands in the code of a run. -/
theorem standsIn_code (ho : o.Checked) (hcase : o.nameCase = .ok case) {generated : Generated}
    (hrun : Generator.run { options := o } s = .ok generated) {d : Definition}
    (hd : d ∈ s.definitions) {i : Item} (hi : i ∈ d.items o case s.registry) :
    StandsIn (i.text o) generated.code := by
  obtain ⟨f, hcode, -, -, hfile⟩ := Generator.code_of_run_ok ho hcase hrun
  obtain ⟨k, hk⟩ := Text.pieces_dropTrailing '\n' (i.text o).toList
  obtain ⟨ps, p, hp, hlines⟩ := Text.exists_pieces_dropTrailing (i.exists_ne_newline o)
  have htext : Text.lines (Text.dropTrailing '\n' (i.text o).toList) <:+:
      Text.lines (i.text o).toList := ⟨[], List.replicate k [], hk.symm⟩
  have hdefinition : ∃ t, d.text? o case s.registry = some t ∧
      Text.lines (i.text o).toList <:+: Text.lines t.toList := by
    refine ⟨_, if_neg ?_, lines_infix_intercalate (List.mem_map_of_mem hi)⟩
    exact fun hempty => List.ne_nil_of_mem hi (List.isEmpty_iff.1 hempty)
  obtain ⟨t, ht, htextIn⟩ := hdefinition
  have hbody : Text.lines t.toList <:+: Text.lines (s.body o case).toList :=
    lines_infix_intercalate (List.mem_filterMap.2 ⟨d, hd, ht⟩)
  have hdropped : Text.lines (Text.dropTrailing '\n' (i.text o).toList) <:+:
      Text.lines f.body.toList := by
    rw [hfile, String.toList_ofList]
    have := (htext.trans htextIn).trans hbody
    rw [Text.lines, hlines] at this ⊢
    exact Text.infix_pieces_dropTrailing hp this
  rw [StandsIn, hcode, f.text_eq]
  exact hdropped.trans f.lines_body_infix

end Items

/-! ## Classes and the values that they take -/

section Classes

variable (o : Options) (case : NameCase) (r : Registry)

/-- The classes of a definition, each with its name and the values that its constructor takes. -/
def Definition.classes : Definition → List (String × List InputValue)
  | enum _ _ _ => []
  | input name fields _ => [(o.phpInputName case name, fields)]
  | object name fields _ =>
    (calledFields fields).map fun f => (o.phpArgsName case name f.name, f.arguments)

/-- The item of a class: its constructor has a parameter for each of the values, in their order. -/
def Options.classItem (c : String × List InputValue) : Item :=
  .dataClass ⟨c.1, c.2.map (o.parameter case r)⟩

theorem Definition.classItem_mem_items {d : Definition} {c : String × List InputValue}
    (hc : c ∈ d.classes o case) : o.classItem case r c ∈ d.items o case r := by
  cases d with
  | enum name values description => cases hc
  | input name fields description =>
    rw [List.mem_singleton.1 hc]
    exact List.mem_singleton_self _
  | object name fields description =>
    obtain ⟨f, hf, rfl⟩ := List.mem_map.1 hc
    exact List.mem_map.2 ⟨f, hf, rfl⟩

theorem Definition.mem_inputValues_of_classes {d : Definition} {c : String × List InputValue}
    (hc : c ∈ d.classes o case) {v : InputValue} (hv : v ∈ c.2) : v ∈ d.inputValues := by
  cases d with
  | enum name values description => cases hc
  | input name fields description =>
    rw [List.mem_singleton.1 hc] at hv
    exact hv
  | object name fields description =>
    obtain ⟨f, hf, rfl⟩ := List.mem_map.1 hc
    exact List.mem_flatMap.2 ⟨f, (List.mem_filter.1 hf).1, hv⟩

/-- An enum or an input object declares one item, and its name is the one by which values of that
type are taken. -/
theorem Definition.items_eq_singleton {d : Definition} (hd : r.kind? d.name = some d.kind)
    (hdeclared : d.kind ∈ declaredKinds) {t : TypeRef} (hlist : t.hasList = false)
    (ht : t.innermost = d.name) :
    ∃ i, d.items o case r = [i] ∧ i.name = o.phpType case r t := by
  cases d with
  | enum name values description =>
    refine ⟨_, rfl, ?_⟩
    rw [Options.phpType, ht, hd, hlist]
    rfl
  | input name fields description =>
    refine ⟨_, rfl, ?_⟩
    rw [Options.phpType, ht, hd, hlist]
    rfl
  | object name fields description =>
    exact absurd hdeclared (by simp [Definition.kind, declaredKinds])

/-- The parameter for a value takes it by the name in the header of an item, which is declared in
the code. -/
structure Refers (code : String) (v : InputValue) (i : Item) : Prop where
  /-- Behind its comment the declaration opens with its header. -/
  opening : ∃ rest, (i.text o).toList = i.comment o ++ (i.header.toList ++ '\n' :: rest)
  standsIn : StandsIn (i.text o) code
  parameter : (o.parameter case r v).text o =
    "public readonly " ++ i.name ++ " $" ++ o.membersPrefix.text ++ v.name

end Classes

/-! ## Files of accepted texts -/

section Accepted

variable {o : Options} {case : NameCase} {s : Schema}

/-- In the file for an accepted text no reference dangles: each class stands in the file, and the
name by which its constructor takes a value of an enum or an input object, outside a list, is the
name in the header of the declaration of that type, which stands in the same file. -/
theorem reference_declared {w : World} {defaults overrides : Layer} {file : Option String}
    {sdl : String} (hload : Options.load w defaults overrides file = .ok o)
    (hcase : o.nameCase = .ok case) (hparse : Schema.parse sdl = .ok s) :
    ((∃ generated, Generator.run { options := o } s = .ok generated) ↔
      (∃ unit, o.indent = .ok unit) ∨ ∀ d ∈ s.definitions, d.kind ≠ .enum) ∧
    ∀ generated, Generator.run { options := o } s = .ok generated →
      ∀ d ∈ s.definitions, ∀ c ∈ d.classes o case,
        StandsIn ((o.classItem case s.registry c).text o) generated.code ∧
        ∀ v ∈ c.2, v.type.hasList = false →
          (∃ kind ∈ declaredKinds, s.registry.kind? v.type.innermost = some kind) →
          v.type.innermost ∉ introspectionEnums →
          ∃ x ∈ s.definitions, x.name = v.type.innermost ∧
            s.registry.kind? v.type.innermost = some x.kind ∧
            ∃ i, x.items o case s.registry = [i] ∧
              Refers o case s.registry generated.code v i := by
  have ho := Options.load_checked hload
  refine ⟨Generator.exists_run_ok_iff ho hcase hparse, ?_⟩
  intro generated hrun d hd c hc
  have hitem := Definition.classItem_mem_items o case s.registry hc
  refine ⟨standsIn_code ho hcase hrun hd hitem, ?_⟩
  rintro v hv hlist ⟨kind, hdeclared, hkind⟩ hstandard
  obtain ⟨document, names, -, built⟩ := built_of_parse hparse
  have hvalue := Definition.mem_inputValues_of_classes o case hc hv
  obtain ⟨x, hx, hname, rfl⟩ :=
    built.exists_definition_of_value hd hvalue hkind hdeclared hstandard
  obtain ⟨i, hitems, htype⟩ := Definition.items_eq_singleton o case s.registry
    (built.kind_eq hx) hdeclared hlist hname.symm
  have hmem : i ∈ x.items o case s.registry := by
    rw [hitems]
    exact List.mem_singleton_self i
  refine ⟨x, hx, hname, hkind, i, hitems, i.text_opening o, ?_, ?_⟩
  · exact standsIn_code ho hcase hrun hx hmem
  · unfold Parameter.text
    rw [htype, Options.parameter]

/-- A class takes a recursive input object by name, before that is declared and though its name gets
no second suffix. -/
theorem reference_declared_forward :
    let sdl := "type Query \x7b near(at: [Int!]!, point: pointInput!): Int \x7d " ++
      "input pointInput \x7b next: pointInput paint: Color \x7d enum Color \x7b RED \x7d"
    let o : Options := { typesPrefix := .value "Api" }
    let point : InputValue := ⟨"point", .nonNull (.named "pointInput"), none⟩
    ∃ s generated i, Schema.parse sdl = .ok s ∧
      Generator.run { options := o } s = .ok generated ∧
      i.name = "ApiPointInput" ∧ Refers o .pascal s.registry generated.code point i := by
  intro sdl o point
  let place : InputValue := ⟨"at", .nonNull (.list (.nonNull (.named "Int"))), none⟩
  let query : Definition :=
    .object "Query" [⟨"near", .named "Int", [place, point], none⟩] none
  let target : Definition := .input "pointInput"
    [⟨"next", .named "pointInput", none⟩, ⟨"paint", .named "Color", none⟩] none
  have hload : Options.load {} Options.defaultLayer [("types_prefix", .text "Api")] none = .ok o :=
    rfl
  obtain ⟨s, hs⟩ := exists_ok_of_isNone (x := Schema.parse sdl) (by decide +kernel)
  have hdefinitions : (Schema.parse sdl).toOption.map (·.definitions) =
      some [query, target, .enum "Color" [⟨"RED", none⟩] none] := by decide +kernel
  have hkind : (Schema.parse sdl).toOption.bind (·.registry.kind? "pointInput") =
      some .inputObject := by decide +kernel
  rw [hs] at hdefinitions hkind
  have hlist : s.definitions = [query, target, .enum "Color" [⟨"RED", none⟩] none] :=
    Option.some.inj hdefinitions
  have hcase : o.nameCase = .ok .pascal := rfl
  obtain ⟨hruns, hrefers⟩ := reference_declared hload hcase hs
  obtain ⟨generated, hrun⟩ := hruns.2 (Or.inl ⟨"    ", rfl⟩)
  have hquery : query ∈ s.definitions := by
    rw [hlist]
    exact List.mem_cons_self
  obtain ⟨-, hvalues⟩ := hrefers generated hrun query hquery
    ("ApiQueryNearArgs", [place, point]) (by decide)
  obtain ⟨x, hx, hname, -, i, hitems, hrefer⟩ := hvalues point (by decide) rfl
    ⟨.inputObject, by decide, hkind⟩ (by decide)
  have htarget : x = target := by
    rw [hlist] at hx
    simp only [List.mem_cons, List.not_mem_nil, or_false] at hx
    rcases hx with rfl | rfl | rfl
    · exact absurd hname (by decide)
    · rfl
    · exact absurd hname (by decide)
  refine ⟨s, generated, i, hs, hrun, ?_, hrefer⟩
  rw [htarget] at hitems
  cases hitems
  have hphpName : o.phpInputName .pascal "pointInput" = "ApiPointInput" := by decide
  exact hphpName

end Accepted

end SdlPhp
