import SdlPhp.Proofs.Schema.Canonical
import Mathlib.Data.List.Pairwise

/-!
# Values of enums

No enum in the schema of a text has two values of one name. The rules see to it for all definitions
and extensions of the enum together, in the order in which the document has them
(`valueNames_nodup_of_walk`), and extensions are merged in without a value that is not in the
document. Main statement: `parse_enumValues_nodup`.
-/

namespace SdlPhp

open Attempt Sdl

namespace Sdl

/-! ## The walk -/

theorem nodup_of_repetitions_eq_nil {α : Type} [BEq α] [LawfulBEq α] {seen xs : List α}
    (h : repetitions seen xs = []) : xs.Nodup ∧ ∀ x ∈ xs, x ∉ seen := by
  induction xs generalizing seen with
  | nil => exact ⟨List.nodup_nil, fun _ hx => nomatch hx⟩
  | cons x xs ih =>
    rw [repetitions] at h
    split at h
    · cases h
    · rename_i hx
      obtain ⟨hnodup, hunseen⟩ := ih h
      refine ⟨List.nodup_cons.2 ⟨fun hmem => hunseen x hmem List.mem_cons_self, hnodup⟩, ?_⟩
      refine List.forall_mem_cons.2 ⟨fun hseen => hx (List.contains_iff_mem.2 hseen), ?_⟩
      exact fun y hy hseen => hunseen y hy (List.mem_cons_of_mem x hseen)

section Walk

variable {f : Facts} {seen : Seen} {st : Statement} {d : Document}

/-- The values of a type node are entered only if all of them are new, and they are seen from then
on. -/
theorem enterType_enumValues {node : TypeNode} (h : (enterType f seen node).1 = []) :
    repetitions seen.enumValues node.valueNames = [] ∧
      (enterType f seen node).2.enumValues = node.valueNames ++ seen.enumValues := by
  refine ⟨?_, rfl⟩
  simp only [enterType, List.append_eq_nil_iff, List.map_eq_nil_iff] at h
  exact h.1.1.1.1.2

theorem enterStatement_enumValues (hst : ∀ node, st ≠ .type node) :
    (enterStatement f seen st).2.enumValues = seen.enumValues := by
  cases st with
  | type node => exact absurd rfl (hst node)
  | schema node => rfl
  | directive node => rfl
  | operation => rfl
  | fragment => rfl

theorem typeNodes_cons_of_ne (hst : ∀ node, st ≠ .type node) (d : Document) :
    Document.typeNodes (st :: d) = d.typeNodes := by
  cases st with
  | type node => exact absurd rfl (hst node)
  | schema node => rfl
  | directive node => rfl
  | operation => rfl
  | fragment => rfl

/-- The values declared from here on are distinct, and none of them has been seen. -/
theorem valueNames_nodup_of_walk (h : walk f seen d = []) :
    (d.typeNodes.flatMap (·.valueNames)).Nodup ∧
      ∀ v ∈ d.typeNodes.flatMap (·.valueNames), v ∉ seen.enumValues := by
  induction d generalizing seen with
  | nil => exact ⟨List.nodup_nil, fun _ hv => nomatch hv⟩
  | cons s d ih =>
    obtain ⟨hentry, -, hrest⟩ := walk_cons_eq_nil_iff.1 h
    obtain ⟨hnodup, hunseen⟩ := ih hrest
    by_cases hs : ∃ node, s = .type node
    · obtain ⟨node, rfl⟩ := hs
      obtain ⟨hnew, hvalues⟩ := enterType_enumValues hentry
      obtain ⟨hown, hfresh⟩ := nodup_of_repetitions_eq_nil hnew
      rw [enterStatement, hvalues] at hunseen
      have hsplit : Document.typeNodes (.type node :: d) = node :: Document.typeNodes d := rfl
      rw [hsplit, List.flatMap_cons, List.nodup_append', List.forall_mem_append]
      refine ⟨⟨hown, hnodup, ?_⟩, hfresh, fun v hv hseen => ?_⟩
      · exact fun v hv hmem => hunseen v hmem (List.mem_append_left _ hv)
      · exact hunseen v hv (List.mem_append_right _ hseen)
    · have hne : ∀ node, s ≠ .type node := fun node e => hs ⟨node, e⟩
      rw [enterStatement_enumValues hne] at hunseen
      rw [typeNodes_cons_of_ne hne]
      exact ⟨hnodup, hunseen⟩

end Walk

/-! ## Merged bodies -/

/-- The names of the values that a body declares. -/
def Body.valueNames : Body → List String
  | enum values => values.map (·.name)
  | _ => []

theorem TypeNode.valueNames_eq (node : TypeNode) :
    node.valueNames = node.body.valueNames.map (node.name, ·) := by
  rw [TypeNode.valueNames]
  cases node.body with
  | enum values => simp [Body.valueNames]
  | scalar => rfl
  | object => rfl
  | interface => rfl
  | union => rfl
  | inputObject => rfl

/-- Merging brings in no values but those of the two bodies. -/
theorem valueNames_merge_sublist (b c : Body) :
    (b.merge c).valueNames.Sublist (b.valueNames ++ c.valueNames) := by
  have kept : (b.valueNames).Sublist (b.valueNames ++ c.valueNames) := List.sublist_append_left _ _
  cases b with
  | enum values =>
    cases c with
    | enum others => simp [Body.merge, Body.valueNames]
    | _ => exact kept
  | scalar => exact kept
  | object => cases c <;> exact List.nil_sublist _
  | interface => cases c <;> exact List.nil_sublist _
  | union => cases c <;> exact List.nil_sublist _
  | inputObject => cases c <;> exact List.nil_sublist _

theorem valueNames_foldl_merge_sublist (nodes : List TypeNode) (b : Body) :
    (nodes.foldl (·.merge ·.body) b).valueNames.Sublist
      (b.valueNames ++ nodes.flatMap (·.body.valueNames)) := by
  induction nodes generalizing b with
  | nil => simp
  | cons node nodes ih =>
    have hmerged := (valueNames_merge_sublist b node.body).append_right
      (nodes.flatMap (·.body.valueNames))
    rw [List.append_assoc] at hmerged
    exact (ih (b.merge node.body)).trans hmerged

end Sdl

/-! ## Types of a document -/

section Document

variable {d : Document}

theorem valueNames_nodup_of_violations (h : d.violations = []) :
    (d.typeNodes.flatMap (·.valueNames)).Nodup :=
  (valueNames_nodup_of_walk h).1

/-- A definition and the extensions of it declare no value twice. -/
theorem merged_valueNames_nodup (h : (d.typeNodes.flatMap (·.valueNames)).Nodup) {node : TypeNode}
    (hnode : node ∈ d.typeDefinitions) :
    (((d.typeNodes.filter (·.isExtension)).filter (·.name == node.name)).foldl (·.merge ·.body)
      node.body).valueNames.Nodup := by
  obtain ⟨hmem, hbase⟩ := mem_typeDefinitions_iff.1 hnode
  obtain ⟨heach, hpairs⟩ := List.nodup_flatMap.1 h
  generalize hext :
    (d.typeNodes.filter (·.isExtension)).filter (·.name == node.name) = extensions
  have hextender : ∀ e ∈ extensions, e ∈ d.typeNodes ∧ e.isExtension = true ∧
      e.name = node.name := by
    intro e he
    rw [← hext, List.mem_filter, List.mem_filter, beq_iff_eq] at he
    exact ⟨he.1.1, he.1.2, he.2⟩
  -- A definition is no extension, so that it stands in another place than each of them.
  have hapart : ∀ e ∈ extensions, List.Disjoint node.valueNames e.valueNames := by
    intro e he
    obtain ⟨hin, hisExt, -⟩ := hextender e he
    have : Std.Symm (Function.onFun List.Disjoint TypeNode.valueNames) :=
      ⟨fun _ _ => List.disjoint_symm⟩
    refine hpairs.forall hmem hin ?_
    rintro rfl
    rw [hbase] at hisExt
    cases hisExt
  have hlist : ((node :: extensions).flatMap (·.valueNames)).Nodup := by
    refine List.nodup_flatMap.2 ⟨?_, List.pairwise_cons.2 ⟨hapart, ?_⟩⟩
    · exact List.forall_mem_cons.2 ⟨heach node hmem, fun e he => heach e (hextender e he).1⟩
    · rw [← hext]
      exact hpairs.sublist (List.filter_sublist.trans List.filter_sublist)
  have hnamed : (node :: extensions).flatMap (·.valueNames) =
      (node.body.valueNames ++ extensions.flatMap (·.body.valueNames)).map (node.name, ·) := by
    rw [List.flatMap_cons, TypeNode.valueNames_eq, List.map_append, List.map_flatMap]
    refine congrArg (_ ++ ·) (List.flatMap_congr fun e he => ?_)
    rw [TypeNode.valueNames_eq, (hextender e he).2.2]
  rw [hnamed] at hlist
  exact hlist.of_map.sublist (valueNames_foldl_merge_sublist extensions node.body)

theorem standardTypes_valueNames_nodup : ∀ node ∈ standardTypes, node.body.valueNames.Nodup := by
  decide +kernel

theorem allTypes_valueNames_nodup (h : d.violations = []) :
    ∀ node ∈ allTypes d, node.body.valueNames.Nodup := by
  intro node hnode
  rcases List.mem_append.1 hnode with hstandard | hdefined
  · exact standardTypes_valueNames_nodup node hstandard
  · obtain ⟨source, hsource, rfl⟩ := List.mem_map.1 hdefined
    split
    · rename_i standard hfound
      exact standardTypes_valueNames_nodup standard (List.mem_of_find?_eq_some hfound)
    · exact merged_valueNames_nodup (valueNames_nodup_of_violations h) hsource

end Document

/-! ## Schemas -/

theorem violations_eq_nil_of_parse {sdl : String} {s : Schema} (h : Schema.parse sdl = .ok s)
    {d : Document} (hd : parseDocument sdl = .ok d) : d.violations = [] := by
  rw [Schema.parse, hd] at h
  obtain ⟨_, heq, h⟩ := bind_eq_ok.1 h
  cases heq
  cases hviolations : d.violations with
  | nil => rfl
  | cons v vs => simp [hviolations] at h

theorem enumValues_of_definitionOf? {node : TypeNode} {x : Definition}
    (h : definitionOf? node = some x) : x.enumValues.map (·.name) = node.body.valueNames := by
  rw [definitionOf?] at h
  cases hbody : node.body with
  | enum values =>
    rw [hbody] at h
    cases h
    exact List.map_map
  | inputObject fields =>
    rw [hbody] at h
    cases h
    rfl
  | object is fields =>
    rw [hbody] at h
    cases h
    rfl
  | scalar => simp [hbody] at h
  | interface => simp [hbody] at h
  | union => simp [hbody] at h

/-- The values of an enum in the schema of a text have distinct names. -/
theorem parse_enumValues_nodup {sdl : String} {s : Schema} (h : Schema.parse sdl = .ok s) :
    ∀ x ∈ s.definitions, (x.enumValues.map (·.name)).Nodup := by
  obtain ⟨d, names, hd, built⟩ := built_of_parse h
  intro x hx
  obtain ⟨-, node, hnode, hdef⟩ := built.mem_definitions_iff.1 hx
  rw [enumValues_of_definitionOf? hdef]
  exact allTypes_valueNames_nodup (violations_eq_nil_of_parse h hd) node (findType?_mem hnode)

end SdlPhp
