import Mathlib.Data.List.Nodup
import SdlPhp.Proofs.Schema.Collection

/-!
# Canonical schemas

The schema of a text is closed and canonical. Its definitions have distinct names and stand in the
order in which the document first names them; which names have a definition, and of what form, is
decided by their kinds in the registry; and every type that a definition names is in the registry,
with an input kind where a value is to be put in.
-/

namespace SdlPhp

open Attempt Sdl

/-! ## First occurrences -/

section FirstOccurrence

/-- Leaving out other names keeps the order of first occurrences. -/
theorem idxOf_lt_idxOf_of_filter {p : String → Bool} {a b : String} (ha : p a = true)
    (hb : p b = true) {names : List String}
    (h : (names.filter p).idxOf a < (names.filter p).idxOf b) :
    names.idxOf a < names.idxOf b := by
  induction names with
  | nil => simp at h
  | cons n names ih =>
    by_cases hn : p n = true
    · rw [List.filter_cons_of_pos hn] at h
      by_cases hnb : n = b
      · rw [hnb, List.idxOf_cons_self] at h
        omega
      by_cases hna : n = a
      · rw [hna, List.idxOf_cons_self, List.idxOf_cons_ne _ (hna ▸ hnb)]
        omega
      · rw [List.idxOf_cons_ne _ hna, List.idxOf_cons_ne _ hnb] at h ⊢
        have := ih (by omega)
        omega
    · rw [List.filter_cons_of_neg hn] at h
      have hna : n ≠ a := fun e => hn (e ▸ ha)
      have hnb : n ≠ b := fun e => hn (e ▸ hb)
      rw [List.idxOf_cons_ne _ hna, List.idxOf_cons_ne _ hnb]
      have := ih h
      omega

/-- Without repetitions the names stand in the order of their first occurrences. -/
theorem pairwise_idxOf_eraseDups (names : List String) :
    names.eraseDups.Pairwise fun a b => names.idxOf a < names.idxOf b := by
  match names with
  | [] => simp
  | n :: names =>
    have others : ∀ b ∈ (names.filter fun b => !b == n).eraseDups, (!b == n) = true :=
      fun b hb => (List.mem_filter.1 (List.mem_eraseDups.1 hb)).2
    have ne_of_mem : ∀ b ∈ (names.filter fun b => !b == n).eraseDups, n ≠ b :=
      fun b hb e => by simpa [e] using others b hb
    rw [List.eraseDups_cons, List.pairwise_cons]
    constructor
    · intro b hb
      rw [List.idxOf_cons_self, List.idxOf_cons_ne _ (ne_of_mem b hb)]
      omega
    · refine (pairwise_idxOf_eraseDups _).imp_of_mem fun {a b} ha hb hlt => ?_
      rw [List.idxOf_cons_ne _ (ne_of_mem a ha), List.idxOf_cons_ne _ (ne_of_mem b hb)]
      have := idxOf_lt_idxOf_of_filter (p := fun c => !c == n) (others a ha) (others b hb) hlt
      omega
termination_by names.length
decreasing_by exact Nat.lt_succ_of_le (List.length_filter_le _ _)

end FirstOccurrence

/-! ## Fields that can be resolved -/

/-- What a definition of the type takes values for. -/
def Sdl.Body.inputDefs : Body → List InputDef
  | .object _ fields => fields.flatMap (·.arguments)
  | .inputObject fields => fields
  | _ => []

theorem inputDefs_references {b : Body} {a : InputDef} (h : a ∈ b.inputDefs) :
    a.type.innermost ∈ b.references := by
  cases b with
  | object is fields =>
    obtain ⟨d, hd, ha⟩ := List.mem_flatMap.1 h
    refine List.mem_append_right _ (List.mem_flatMap.2 ⟨d, hd, List.mem_cons_of_mem _ ?_⟩)
    exact List.mem_map_of_mem ha
  | inputObject fields => exact List.mem_map_of_mem h
  | scalar => cases h
  | interface => cases h
  | union => cases h
  | enum => cases h

section Resolved

variable {types : List TypeNode} {fieldsOf : String → Except BuildFault InputFields}

theorem isInputRef_of_resolveInput {kindFault : BuildFault} {d : InputDef} {b : Bool}
    (h : resolveInput types fieldsOf kindFault d = .ok b) : isInputRef types d.type = true := by
  -- With and without a default the same checks follow.
  have kindChecked : ∀ {deprecation : Except BuildFault Unit} {rest : Verdict}, (do
      deprecation
      refuse (if isInputRef types d.type then none else some kindFault)
      rest) = .ok b → isInputRef types d.type = true := by
    intro deprecation rest h
    obtain ⟨_, -, h⟩ := bind_eq_ok.1 h
    obtain ⟨_, hkind, -⟩ := bind_eq_ok.1 h
    rw [refuse_eq_ok] at hkind
    by_contra hnot
    rw [if_neg hnot] at hkind
    cases hkind
  rw [resolveInput] at h
  cases hd : d.default with
  | some v =>
    rw [hd] at h
    obtain ⟨_, -, h⟩ := bind_eq_ok.1 h
    exact kindChecked h
  | none =>
    rw [hd] at h
    exact kindChecked h

theorem isInputRef_of_resolveField {d : FieldDef} (h : resolveField types fieldsOf d = .ok ()) :
    ∀ a ∈ d.arguments, isInputRef types a.type = true := by
  intro a ha
  rw [resolveField] at h
  obtain ⟨_, hargs, -⟩ := bind_eq_ok.1 h
  obtain ⟨_, hresolve, -⟩ := bind_eq_ok.1 (forM_eq_ok.1 hargs a ha)
  exact isInputRef_of_resolveInput hresolve

theorem isInputRef_of_inputFieldsWithin {fuel : Nat} {node : TypeNode} {fields : List InputDef}
    {resolved : InputFields} (hnode : findType? types node.name = some node)
    (hbody : node.body = .inputObject fields)
    (h : inputFieldsWithin types fuel node.name = .ok resolved) :
    ∀ a ∈ fields, isInputRef types a.type = true := by
  intro a ha
  cases fuel with
  | zero => cases h
  | succ fuel =>
    rw [inputFieldsWithin, hnode, Option.map_some, hbody] at h
    obtain ⟨_, -, hfield⟩ := mapM_eq_ok_mem (mapError_eq_ok.1 h) ha
    obtain ⟨_, hresolve, -⟩ := bind_eq_ok.1 hfield
    exact isInputRef_of_resolveInput hresolve

/-- Where the fields of a type can be resolved, it takes only values of input types. -/
theorem isInputRef_of_resolveFields {node : TypeNode}
    (hnode : findType? types node.name = some node) (h : resolveFields types node = .ok ()) :
    ∀ a ∈ node.body.inputDefs, isInputRef types a.type = true := by
  intro a ha
  rw [resolveFields] at h
  cases hbody : node.body with
  | object is fields =>
    rw [hbody] at h ha
    obtain ⟨d, hd, ha⟩ := List.mem_flatMap.1 ha
    exact isInputRef_of_resolveField (forM_eq_ok.1 (mapError_eq_ok.1 h) d hd) a ha
  | inputObject fields =>
    rw [hbody] at h ha
    obtain ⟨_, hfields, -⟩ := bind_eq_ok.1 h
    exact isInputRef_of_inputFieldsWithin hnode hbody hfields a ha
  | scalar => simp [hbody, Body.inputDefs] at ha
  | interface => simp [hbody, Body.inputDefs] at ha
  | union => simp [hbody, Body.inputDefs] at ha
  | enum => simp [hbody, Body.inputDefs] at ha

end Resolved

/-! ## Types that are known -/

/-- The standard types name standard types only. -/
theorem standardTypes_closed :
    ∀ node ∈ standardTypes, ∀ n ∈ node.body.references, n ∈ standardTypeNames := by
  decide +kernel

section Known

variable {d : Document}

theorem mem_allTypes_names {n : String} : n ∈ (allTypes d).map (·.name) ↔ d.Knows n := by
  rw [allTypes, List.map_append, List.mem_append, definedTypes_names, Document.Knows, or_comm]
  rfl

theorem findType?_of_mem {types : List TypeNode} {n : String} (h : n ∈ types.map (·.name)) :
    ∃ node, findType? types n = some node := by
  obtain ⟨node, hnode, rfl⟩ := List.mem_map.1 h
  exact Option.isSome_iff_exists.1 (List.find?_isSome.2 ⟨node, hnode, beq_self_eq_true _⟩)

/-- All types of a valid document name types that there are. -/
theorem references_known_of_mem_allTypes (hd : d.Valid) {node : TypeNode}
    (hnode : node ∈ allTypes d) {n : String} (hn : n ∈ node.body.references) : d.Knows n := by
  rcases List.mem_append.1 hnode with hstd | hdef
  · exact Or.inr (standardTypes_closed node hstd n hn)
  · obtain ⟨source, hsource, rfl⟩ := List.mem_map.1 hdef
    have hmem := (mem_typeDefinitions_iff.1 hsource).1
    split at hn
    · rename_i standard hfound
      exact Or.inr (standardTypes_closed standard (List.mem_of_find?_eq_some hfound) n hn)
    · rcases mem_references_foldl_merge hn with hn | ⟨extender, hext, hn⟩
      · exact hd.references_known source hmem n hn
      · have := (List.mem_filter.1 (List.mem_filter.1 hext).1).1
        exact hd.references_known extender this n hn

end Known

/-! ## The schema that is built -/

/-- What a schema is made of: the names of a document's type nodes by first occurrence, and the
names of all collected types. -/
structure Built (d : Document) (names : List String) (s : Schema) : Prop where
  valid : d.Valid
  collected : collectAll d = .ok names
  definitions : s.definitions =
    (Schema.orderedNames d).filterMap fun n => (findType? (allTypes d) n).bind definitionOf?
  kinds : s.registry.kinds = names.filterMap fun n => (kindOf? (allTypes d) n).map (n, ·)

theorem built_of_parse {sdl : String} {s : Schema} (h : Schema.parse sdl = .ok s) :
    ∃ d names, parseDocument sdl = .ok d ∧ Built d names s := by
  rw [Schema.parse] at h
  obtain ⟨d, hd, h⟩ := bind_eq_ok.1 h
  cases hviolations : d.violations with
  | cons v vs => simp [hviolations] at h
  | nil =>
    rw [hviolations] at h
    obtain ⟨names, hnames, h⟩ := bind_eq_ok.1 (mapError_eq_ok.1 h)
    cases pure_eq_ok.1 h
    exact ⟨d, names, mapError_eq_ok.1 hd, valid_of_violations_eq_nil hviolations, hnames, rfl, rfl⟩

/-! ## Kinds -/

/-- Looking up a name in a table that is made from a list of names. -/
theorem get?_filterMap {α : Type} (f : String → Option α) (names : List String) (n : String) :
    Entries.get? (names.filterMap fun n => (f n).map (n, ·)) n =
      if n ∈ names then f n else none := by
  induction names with
  | nil => rfl
  | cons m names ih =>
    by_cases hm : m = n
    · subst hm
      cases hf : f m with
      | some a => simp [hf, Entries.get?]
      | none => simp [hf, ih]
    · cases hf : f m with
      | some a => simp [hf, Entries.get?, hm, Ne.symm hm, ih]
      | none => simp [hf, Ne.symm hm, ih]

section Definitions

variable {d : Document} {names : List String} {s : Schema}

theorem kindOf?_eq_some_of_findType? {types : List TypeNode} {n : String} {node : TypeNode}
    (h : findType? types n = some node) : kindOf? types n = some node.body.kind := by
  rw [kindOf?, h, Option.map_some]

/-- The registry has every collected type with its kind. -/
theorem Built.kind?_eq (h : Built d names s) {n : String} (hn : n ∈ names) :
    s.registry.kind? n = kindOf? (allTypes d) n := by
  rw [Registry.kind?, h.kinds, get?_filterMap, if_pos hn]

theorem definitionOf?_eq_some {node : TypeNode} {x : Definition} (h : definitionOf? node = some x) :
    x.name = node.name ∧ x.kind = node.body.kind ∧
      x.inputValues = node.body.inputDefs.map inputValue ∧
      ∀ f ∈ x.objectFields, f.type.innermost ∈ node.body.references := by
  rw [definitionOf?] at h
  cases hbody : node.body with
  | enum values =>
    rw [hbody] at h
    cases h
    exact ⟨rfl, rfl, rfl, by simp [Definition.objectFields]⟩
  | inputObject fields =>
    rw [hbody] at h
    cases h
    exact ⟨rfl, rfl, rfl, by simp [Definition.objectFields]⟩
  | object is fields =>
    rw [hbody] at h
    cases h
    refine ⟨rfl, rfl, ?_, fun f hf => ?_⟩
    · simp [Definition.inputValues, Body.inputDefs, objectField, List.flatMap_map, List.map_flatMap]
    · obtain ⟨d, hd, rfl⟩ := List.mem_map.1 hf
      exact List.mem_append_right _ (List.mem_flatMap.2 ⟨d, hd, List.mem_cons_self⟩)
  | scalar => simp [hbody] at h
  | interface => simp [hbody] at h
  | union => simp [hbody] at h

/-- The kinds of types that have a definition. -/
def definedKinds : List TypeKind := [.enum, .inputObject, .object]

theorem isSome_definitionOf?_iff {node : TypeNode} :
    (definitionOf? node).isSome ↔ node.body.kind ∈ definedKinds := by
  rw [definitionOf?]
  cases node.body <;> simp [Body.kind, definedKinds]

theorem mem_orderedNames_iff {n : String} :
    n ∈ Schema.orderedNames d ↔ n ∈ d.typeNodes.map (·.name) := by
  rw [Schema.orderedNames, List.mem_eraseDups]

/-- A definition is that of the type with its name. -/
theorem Built.mem_definitions_iff (h : Built d names s) {x : Definition} :
    x ∈ s.definitions ↔ x.name ∈ d.typeNodes.map (·.name) ∧
      ∃ node, findType? (allTypes d) x.name = some node ∧ definitionOf? node = some x := by
  rw [h.definitions, List.mem_filterMap]
  constructor
  · rintro ⟨n, hn, hx⟩
    obtain ⟨node, hnode, hx⟩ := Option.bind_eq_some_iff.1 hx
    have hname : x.name = n := (definitionOf?_eq_some hx).1.trans (findType?_name hnode)
    rw [hname]
    exact ⟨mem_orderedNames_iff.1 hn, node, hnode, hx⟩
  · rintro ⟨hn, node, hnode, hx⟩
    exact ⟨x.name, mem_orderedNames_iff.2 hn, Option.bind_eq_some_iff.2 ⟨node, hnode, hx⟩⟩

/-- The names of the definitions are among those of the document, in their order. -/
theorem Built.definitions_names (h : Built d names s) :
    (s.definitions.map (·.name)).Sublist (Schema.orderedNames d) := by
  rw [h.definitions, List.map_filterMap]
  have named : ∀ n x, ((findType? (allTypes d) n).bind definitionOf?).map (·.name) = some x →
      x = n := by
    intro n x hx
    obtain ⟨y, hy, rfl⟩ := Option.map_eq_some_iff.1 hx
    obtain ⟨node, hnode, hy⟩ := Option.bind_eq_some_iff.1 hy
    exact (definitionOf?_eq_some hy).1.trans (findType?_name hnode)
  induction Schema.orderedNames d with
  | nil => exact List.Sublist.slnil
  | cons n ns ih =>
    rw [List.filterMap_cons]
    cases hx : ((findType? (allTypes d) n).bind definitionOf?).map (·.name) with
    | none => exact ih.cons n
    | some x => exact named n x hx ▸ ih.cons_cons x

/-- A name of the document is collected, and there is a type of that name. -/
theorem Built.collected_of_mem (h : Built d names s) {n : String}
    (hn : n ∈ d.typeNodes.map (·.name)) :
    n ∈ names ∧ ∃ node, findType? (allTypes d) n = some node := by
  obtain ⟨node, hnode, rfl⟩ := List.mem_map.1 hn
  have hdefined := h.valid.defined node hnode
  exact ⟨(collectAll_ok h.valid h.collected).2.1 hdefined,
    findType?_of_mem (mem_allTypes_names.2 (Or.inl hdefined))⟩

/-- What a collected type names is in the registry with its kind. -/
theorem Built.kind?_of_mem_references (h : Built d names s) {m n : String} {node : TypeNode}
    (hm : m ∈ names) (hnode : findType? (allTypes d) m = some node)
    (hn : n ∈ node.body.references) :
    ∃ kind, s.registry.kind? n = some kind ∧ kindOf? (allTypes d) n = some kind := by
  have hcollected := ((collectAll_ok h.valid h.collected).2.2 m hm node hnode).2 hn
  have hknown := references_known_of_mem_allTypes h.valid (findType?_mem hnode) hn
  obtain ⟨target, htarget⟩ := findType?_of_mem (mem_allTypes_names.2 hknown)
  have hkind := kindOf?_eq_some_of_findType? htarget
  exact ⟨target.body.kind, by rw [h.kind?_eq hcollected, hkind], hkind⟩

end Definitions

/-! ## Canonical schemas -/

/-- The kinds of types that values can be put in for. -/
def inputKinds : List TypeKind := [.scalar, .enum, .inputObject]

theorem mem_inputKinds_iff {kind : TypeKind} : kind ∈ inputKinds ↔ kind.isInput = true := by
  cases kind <;> decide

/-- A schema is closed and canonical for a document. -/
structure Canonical (d : Document) (s : Schema) : Prop where
  names_nodup : (s.definitions.map (·.name)).Nodup
  /-- The definitions stand in the order in which the document first names their types. -/
  ordered : (s.definitions.map (·.name)).Pairwise fun m n =>
    (d.typeNodes.map (·.name)).idxOf m < (d.typeNodes.map (·.name)).idxOf n
  named : ∀ x ∈ s.definitions, x.name ∈ d.typeNodes.map (·.name)
  defined_iff : ∀ n ∈ d.typeNodes.map (·.name),
    (∃ x ∈ s.definitions, x.name = n) ↔ ∃ kind ∈ definedKinds, s.registry.kind? n = some kind
  kind : ∀ x ∈ s.definitions, s.registry.kind? x.name = some x.kind
  field_known : ∀ x ∈ s.definitions, ∀ f ∈ x.objectFields,
    s.registry.contains f.type.innermost = true
  value_input : ∀ x ∈ s.definitions, ∀ v ∈ x.inputValues,
    ∃ kind ∈ inputKinds, s.registry.kind? v.type.innermost = some kind
  lookup : ∀ x ∈ s.definitions, s.definition? x.name = some x

section Canonical

variable {d : Document} {names : List String} {s : Schema}

theorem Built.kind_eq (h : Built d names s) {x : Definition} (hx : x ∈ s.definitions) :
    s.registry.kind? x.name = some x.kind := by
  obtain ⟨hn, node, hnode, hdef⟩ := h.mem_definitions_iff.1 hx
  rw [h.kind?_eq (h.collected_of_mem hn).1, kindOf?_eq_some_of_findType? hnode,
    (definitionOf?_eq_some hdef).2.1]

theorem Built.defined_iff (h : Built d names s) {n : String} (hn : n ∈ d.typeNodes.map (·.name)) :
    (∃ x ∈ s.definitions, x.name = n) ↔
      ∃ kind ∈ definedKinds, s.registry.kind? n = some kind := by
  obtain ⟨hcollected, node, hnode⟩ := h.collected_of_mem hn
  have hkind : s.registry.kind? n = some node.body.kind := by
    rw [h.kind?_eq hcollected, kindOf?_eq_some_of_findType? hnode]
  constructor
  · rintro ⟨x, hx, rfl⟩
    obtain ⟨-, other, hother, hdef⟩ := h.mem_definitions_iff.1 hx
    cases hnode.symm.trans hother
    exact ⟨node.body.kind, isSome_definitionOf?_iff.1 (by rw [hdef]; rfl), hkind⟩
  · rintro ⟨kind, hmem, hfound⟩
    cases hkind.symm.trans hfound
    obtain ⟨x, hdef⟩ := Option.isSome_iff_exists.1 (isSome_definitionOf?_iff.2 hmem)
    have hname : x.name = n := (definitionOf?_eq_some hdef).1.trans (findType?_name hnode)
    exact ⟨x, h.mem_definitions_iff.2 ⟨hname ▸ hn, node, hname ▸ hnode, hdef⟩, hname⟩

theorem Built.field_known (h : Built d names s) {x : Definition} (hx : x ∈ s.definitions)
    {f : ObjectField} (hf : f ∈ x.objectFields) :
    s.registry.contains f.type.innermost = true := by
  obtain ⟨hn, node, hnode, hdef⟩ := h.mem_definitions_iff.1 hx
  have hreference := (definitionOf?_eq_some hdef).2.2.2 f hf
  obtain ⟨kind, hkind, -⟩ :=
    h.kind?_of_mem_references (h.collected_of_mem hn).1 hnode hreference
  rw [Registry.contains, Entries.has, ← Registry.kind?, hkind]
  rfl

/-- The innermost type of a value is a type that values can be put in for, and is in the registry
with its kind. -/
theorem Built.value_kind (h : Built d names s) {x : Definition} (hx : x ∈ s.definitions)
    {v : InputValue} (hv : v ∈ x.inputValues) :
    ∃ kind ∈ inputKinds, s.registry.kind? v.type.innermost = some kind ∧
      kindOf? (allTypes d) v.type.innermost = some kind := by
  obtain ⟨hn, node, hnode, hdef⟩ := h.mem_definitions_iff.1 hx
  rw [(definitionOf?_eq_some hdef).2.2.1] at hv
  obtain ⟨a, ha, rfl⟩ := List.mem_map.1 hv
  have hcollected := (h.collected_of_mem hn).1
  obtain ⟨kind, hkind, hall⟩ :=
    h.kind?_of_mem_references hcollected hnode (inputDefs_references ha)
  have hresolve := ((collectAll_ok h.valid h.collected).2.2 x.name hcollected node hnode).1
  have hinput : isInputRef (allTypes d) a.type = true :=
    isInputRef_of_resolveFields (findType?_name hnode ▸ hnode) hresolve a ha
  rw [isInputRef, hall] at hinput
  exact ⟨kind, mem_inputKinds_iff.2 hinput, hkind, hall⟩

theorem Built.value_input (h : Built d names s) {x : Definition} (hx : x ∈ s.definitions)
    {v : InputValue} (hv : v ∈ x.inputValues) :
    ∃ kind ∈ inputKinds, s.registry.kind? v.type.innermost = some kind := by
  obtain ⟨kind, hmem, hkind, -⟩ := h.value_kind hx hv
  exact ⟨kind, hmem, hkind⟩

theorem Built.ordered (h : Built d names s) :
    (s.definitions.map (·.name)).Pairwise fun m n =>
      (d.typeNodes.map (·.name)).idxOf m < (d.typeNodes.map (·.name)).idxOf n :=
  (pairwise_idxOf_eraseDups _).sublist h.definitions_names

theorem Built.names_nodup (h : Built d names s) : (s.definitions.map (·.name)).Nodup := by
  refine h.ordered.imp ?_
  rintro m _ hlt rfl
  exact Nat.lt_irrefl _ hlt

theorem Built.lookup (h : Built d names s) {x : Definition} (hx : x ∈ s.definitions) :
    s.definition? x.name = some x := by
  have hsome : (s.definition? x.name).isSome := List.find?_isSome.2 ⟨x, hx, beq_self_eq_true _⟩
  obtain ⟨y, hy⟩ := Option.isSome_iff_exists.1 hsome
  have hname : y.name = x.name := by simpa using List.find?_some hy
  rw [hy, List.inj_on_of_nodup_map h.names_nodup (List.mem_of_find?_eq_some hy) hx hname]

/-- The schema of an accepted text is closed and canonical for the document that the text is. -/
theorem parse_canonical {sdl : String} (h : Schema.parse sdl = .ok s) :
    ∃ d, parseDocument sdl = .ok d ∧ Canonical d s := by
  obtain ⟨d, names, hd, built⟩ := built_of_parse h
  exact ⟨d, hd, {
    names_nodup := built.names_nodup
    ordered := built.ordered
    named := fun x hx => (built.mem_definitions_iff.1 hx).1
    defined_iff := fun n hn => built.defined_iff hn
    kind := fun x hx => built.kind_eq hx
    field_known := fun x hx f hf => built.field_known hx hf
    value_input := fun x hx v hv => built.value_input hx hv
    lookup := fun x hx => built.lookup hx }⟩

/-- An extension stands before its base, a standard type is redefined, and nothing refers to a
scalar. -/
theorem parse_canonical_filter :
    let sdl := "extend input Filter { near: [Point!] } enum String { A } scalar Date " ++
      "input Filter { tag: Tag = A, at: Date } type Query { find(filter: Filter!): [[Query!]] } " ++
      "enum Tag { A B } input Point { x: Int!, next: Point } scalar Unused"
    ∃ s d, Schema.parse sdl = .ok s ∧ parseDocument sdl = .ok d ∧ Canonical d s := by
  intro sdl
  obtain ⟨s, hs⟩ := exists_ok_of_isNone (x := Schema.parse sdl) (by decide +kernel)
  obtain ⟨d, hd, canonical⟩ := parse_canonical hs
  exact ⟨s, d, hs, hd, canonical⟩

end Canonical

end SdlPhp
