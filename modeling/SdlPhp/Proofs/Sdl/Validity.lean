import Mathlib.Tactic.SplitIfs
import SdlPhp.Schema.Build

/-!
# Valid documents

What the absence of violations says about a document (`valid_of_violations_eq_nil`): no two type
definitions have one name, what is extended is defined, and every type that a type node names is
defined or standard. The walk over the document is followed statement by statement.
-/

namespace SdlPhp.Sdl

/-! ## The walk -/

section Walk

variable {f : Facts} {seen : Seen} {st : Statement} {d : Document}

theorem walk_cons_eq_nil_iff :
    walk f seen (st :: d) = [] ↔
      (enterStatement f seen st).1 = [] ∧ checkParts f st = [] ∧
        walk f (enterStatement f seen st).2 d = [] := by
  simp only [walk, List.append_eq_nil_iff, and_assoc]

theorem checkParts_eq_nil_of_walk (h : walk f seen d = []) (hs : st ∈ d) :
    checkParts f st = [] := by
  induction d generalizing seen with
  | nil => cases hs
  | cons s d ih =>
    obtain ⟨-, hparts, hrest⟩ := walk_cons_eq_nil_iff.1 h
    rcases List.mem_cons.1 hs with rfl | hs
    · exact hparts
    · exact ih hrest hs

theorem checkExtension_eq_nil_of_walk {node : TypeNode} (h : walk f seen d = [])
    (hs : .type node ∈ d) : checkExtension f node = [] := by
  induction d generalizing seen with
  | nil => cases hs
  | cons s d ih =>
    obtain ⟨hentry, -, hrest⟩ := walk_cons_eq_nil_iff.1 h
    rcases List.mem_cons.1 hs with rfl | hs
    · simp only [enterStatement, enterType, List.append_eq_nil_iff] at hentry
      exact hentry.2
    · exact ih hrest hs

/-- A definition is entered only if its name is new, and its name is seen from then on. -/
theorem enterType_types {node : TypeNode} (h : (enterType f seen node).1 = []) :
    (node.isExtension = false → node.name ∉ seen.types) ∧
      (enterType f seen node).2.types =
        if node.isExtension then seen.types else node.name :: seen.types := by
  refine ⟨fun hdef hseen => ?_, rfl⟩
  simp only [enterType, List.append_eq_nil_iff] at h
  have first := h.1.1.1.1.1
  rw [if_pos (by simp [hdef, hseen])] at first
  cases first

theorem enterStatement_types (h : (enterStatement f seen st).1 = [])
    (hst : ∀ node, st ≠ .type node) : (enterStatement f seen st).2.types = seen.types := by
  cases st with
  | type node => exact absurd rfl (hst node)
  | schema node => rfl
  | directive node => rfl
  | operation => rfl
  | fragment => rfl

theorem typeDefinitions_cons_type (node : TypeNode) (d : Document) :
    Document.typeDefinitions (.type node :: d) =
      if node.isExtension then d.typeDefinitions else node :: d.typeDefinitions := by
  cases h : node.isExtension <;> simp [Document.typeDefinitions, Document.typeNodes, h]

theorem typeDefinitions_cons_of_ne (hst : ∀ node, st ≠ .type node) (d : Document) :
    Document.typeDefinitions (st :: d) = d.typeDefinitions := by
  cases st with
  | type node => exact absurd rfl (hst node)
  | schema node => rfl
  | directive node => rfl
  | operation => rfl
  | fragment => rfl

/-- The names defined from here on are distinct, and none of them has been seen. -/
theorem names_nodup_of_walk (h : walk f seen d = []) :
    (d.typeDefinitions.map (·.name)).Nodup ∧
      ∀ n ∈ d.typeDefinitions.map (·.name), n ∉ seen.types := by
  induction d generalizing seen with
  | nil => simp [Document.typeDefinitions, Document.typeNodes]
  | cons s d ih =>
    obtain ⟨hentry, -, hrest⟩ := walk_cons_eq_nil_iff.1 h
    obtain ⟨hnodup, hunseen⟩ := ih hrest
    by_cases hs : ∃ node, s = .type node
    · obtain ⟨node, rfl⟩ := hs
      obtain ⟨hnew, htypes⟩ := enterType_types hentry
      rw [enterStatement, htypes] at hunseen
      rw [typeDefinitions_cons_type]
      split_ifs at hunseen ⊢ with hext
      · exact ⟨hnodup, hunseen⟩
      · rw [List.map_cons, List.nodup_cons, List.forall_mem_cons]
        refine ⟨⟨fun hmem => ?_, hnodup⟩, hnew (by simpa using hext), fun n hn hseen => ?_⟩
        · exact hunseen _ hmem List.mem_cons_self
        · exact hunseen n hn (List.mem_cons_of_mem _ hseen)
    · have hne : ∀ node, s ≠ .type node := fun node e => hs ⟨node, e⟩
      rw [enterStatement_types hentry hne] at hunseen
      rw [typeDefinitions_cons_of_ne hne]
      exact ⟨hnodup, hunseen⟩

end Walk

/-! ## Facts -/

section Facts

variable {d : Document}

theorem typeNames_ofDocument :
    (Facts.ofDocument d).typeNames = d.typeDefinitions.map (·.name) := by
  simp [Facts.typeNames, Facts.ofDocument]

theorem mem_typeNodes_iff {node : TypeNode} : node ∈ d.typeNodes ↔ .type node ∈ d := by
  constructor
  · intro h
    obtain ⟨st, hst, he⟩ := List.mem_filterMap.1 h
    cases st with
    | type n => exact Option.some.inj he ▸ hst
    | schema => cases he
    | directive => cases he
    | operation => cases he
    | fragment => cases he
  · exact fun h => List.mem_filterMap.2 ⟨_, h, rfl⟩

theorem mem_typeDefinitions_iff {node : TypeNode} :
    node ∈ d.typeDefinitions ↔ node ∈ d.typeNodes ∧ node.isExtension = false := by
  simp [Document.typeDefinitions]

/-- The type is defined in the document or is a standard one. -/
def Document.Knows (d : Document) (name : String) : Prop :=
  name ∈ d.typeDefinitions.map (·.name) ∨ name ∈ standardTypeNames

theorem knows_of_checkTypeName {name : String}
    (h : checkTypeName (Facts.ofDocument d) .definitions name = []) : d.Knows name := by
  rw [Document.Knows, ← typeNames_ofDocument]
  by_cases hdef : (Facts.ofDocument d).defines name = true
  · exact Or.inl (List.contains_iff_mem.1 hdef)
  · by_cases hstd : standardTypeNames.contains name = true
    · exact Or.inr (List.contains_iff_mem.1 hstd)
    · rw [checkTypeName, if_neg hdef] at h
      simp only [if_neg hstd, reduceCtorEq] at h

theorem defined_of_checkExtension {node : TypeNode} (hext : node.isExtension = true)
    (h : checkExtension (Facts.ofDocument d) node = []) :
    node.name ∈ d.typeDefinitions.map (·.name) := by
  rw [← typeNames_ofDocument]
  cases hkind : (Facts.ofDocument d).kind? node.name with
  | none => simp [checkExtension, hext, hkind] at h
  | some kind =>
    rw [Facts.kind?, Option.map_eq_some_iff] at hkind
    obtain ⟨entry, hfound, -⟩ := hkind
    have hmem := List.mem_reverse.1 (List.mem_of_find?_eq_some hfound)
    have hname : entry.1 = node.name := by simpa using List.find?_some hfound
    exact List.mem_map.2 ⟨entry, hmem, hname⟩

end Facts

/-! ## Named types -/

/-- All types that a body names. -/
def Body.references : Body → List String
  | scalar | enum _ => []
  | object is fields | interface is fields =>
    is ++ fields.flatMap fun d => d.type.innermost :: d.arguments.map (·.type.innermost)
  | union members => members
  | inputObject fields => fields.map (·.type.innermost)

theorem mem_references_iff {node : TypeNode} {n : String} :
    n ∈ node.body.references ↔
      n ∈ memberReferences node ∨ n ∈ interfaceReferences node ∨ n ∈ fieldReferences node := by
  cases h : node.body <;>
    simp [Body.references, memberReferences, interfaceReferences, fieldReferences, h]

/-- Merging brings in no references but those of the two bodies. -/
theorem mem_references_merge {b c : Body} {n : String} (h : n ∈ (b.merge c).references) :
    n ∈ b.references ∨ n ∈ c.references := by
  cases b <;> cases c <;> simp only [Body.merge] at h <;>
    first
    | exact Or.inl h
    | (simp only [Body.references, List.flatMap_append, List.map_append, List.mem_append] at h ⊢
       grind)

theorem mem_references_foldl_merge {nodes : List TypeNode} {b : Body} {n : String}
    (h : n ∈ (nodes.foldl (·.merge ·.body) b).references) :
    n ∈ b.references ∨ ∃ node ∈ nodes, n ∈ node.body.references := by
  induction nodes generalizing b with
  | nil => exact Or.inl h
  | cons node nodes ih =>
    rcases ih h with h | ⟨m, hm, h⟩
    · rcases mem_references_merge h with h | h
      · exact Or.inl h
      · exact Or.inr ⟨node, List.mem_cons_self, h⟩
    · exact Or.inr ⟨m, List.mem_cons_of_mem _ hm, h⟩

section Parts

variable {f : Facts}

theorem checkTypeRef_of_checkInputDef {location : Location} {d : InputDef}
    (h : checkInputDef f location d = []) : checkTypeName f .definitions d.type.innermost = [] := by
  simp only [checkInputDef, List.append_eq_nil_iff] at h
  exact h.1.1.2

theorem checkTypeRef_of_checkFieldDef {d : FieldDef} (h : checkFieldDef f d = []) :
    ∀ n ∈ d.type.innermost :: d.arguments.map (·.type.innermost),
      checkTypeName f .definitions n = [] := by
  simp only [checkFieldDef, List.append_eq_nil_iff, List.flatMap_eq_nil_iff] at h
  rw [List.forall_mem_cons]
  refine ⟨h.1.2, fun n hn => ?_⟩
  obtain ⟨a, ha, rfl⟩ := List.mem_map.1 hn
  exact checkTypeRef_of_checkInputDef (h.1.1.2 a ha)

/-- A type node without violations in its parts names known types only. -/
theorem checkTypeName_of_checkTypeParts {node : TypeNode} (h : checkTypeParts f node = [])
    {n : String} (hn : n ∈ node.body.references) : checkTypeName f .definitions n = [] := by
  cases hb : node.body with
  | scalar => simp [hb, Body.references] at hn
  | enum values => simp [hb, Body.references] at hn
  | object is fields | interface is fields =>
    simp only [checkTypeParts, hb, List.append_eq_nil_iff, List.flatMap_eq_nil_iff] at h
    simp only [hb, Body.references, List.mem_append, List.mem_flatMap] at hn
    rcases hn with hn | ⟨d, hd, hn⟩
    · exact h.1.1 n hn
    · exact checkTypeRef_of_checkFieldDef (h.2 d hd) n hn
  | union members =>
    simp only [checkTypeParts, hb, List.append_eq_nil_iff, List.flatMap_eq_nil_iff] at h
    exact h.2 n (by simpa [hb, Body.references] using hn)
  | inputObject fields =>
    simp only [checkTypeParts, hb, List.append_eq_nil_iff, List.flatMap_eq_nil_iff] at h
    simp only [hb, Body.references, List.mem_map] at hn
    obtain ⟨d, hd, rfl⟩ := hn
    exact checkTypeRef_of_checkInputDef (h.2 d hd)

end Parts

/-! ## Validity -/

/-- What the rules promise about the types of a document. -/
structure Document.Valid (d : Document) : Prop where
  names_nodup : (d.typeDefinitions.map (·.name)).Nodup
  /-- What is defined or extended is defined. -/
  defined : ∀ node ∈ d.typeNodes, node.name ∈ d.typeDefinitions.map (·.name)
  references_known : ∀ node ∈ d.typeNodes, ∀ n ∈ node.body.references, d.Knows n

theorem valid_of_violations_eq_nil {d : Document} (h : d.violations = []) : d.Valid where
  names_nodup := (names_nodup_of_walk h).1
  defined node hnode := by
    cases hext : node.isExtension with
    | false => exact List.mem_map_of_mem (mem_typeDefinitions_iff.2 ⟨hnode, hext⟩)
    | true =>
      exact defined_of_checkExtension hext
        (checkExtension_eq_nil_of_walk h (mem_typeNodes_iff.1 hnode))
  references_known node hnode n hn :=
    knows_of_checkTypeName (checkTypeName_of_checkTypeParts
      (checkParts_eq_nil_of_walk h (mem_typeNodes_iff.1 hnode)) hn)

end SdlPhp.Sdl
