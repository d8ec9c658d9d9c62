import SdlPhp.Proofs.Schema.Canonical
import SdlPhp.Proofs.Sdl.Names

/-!
# Names of a schema

All names in the schema of a text are names of the language: those of its definitions, of their
fields, arguments and values, and of the types that these take (`parse_named`). They come from the
document, where extensions are merged in, or from the standard types.
-/

namespace SdlPhp

open Attempt Sdl

/-! ## Types of a document -/

instance : DecidablePred Named := fun s => inferInstanceAs (Decidable (isName s.toList = true))

instance : DecidablePred InputDef.Named := fun _ => inferInstanceAs (Decidable (_ ∧ _))

instance : DecidablePred FieldDef.Named := fun _ => inferInstanceAs (Decidable (_ ∧ _ ∧ _))

instance : DecidablePred Body.Named
  | .object _ fields | .interface _ fields =>
    inferInstanceAs (Decidable (∀ d ∈ fields, FieldDef.Named d))
  | .inputObject fields => inferInstanceAs (Decidable (∀ d ∈ fields, InputDef.Named d))
  | .enum values => inferInstanceAs (Decidable (∀ v ∈ values, Named v.name))
  | .scalar | .union _ => inferInstanceAs (Decidable True)

instance : DecidablePred TypeNode.Named := fun _ => inferInstanceAs (Decidable (_ ∧ _))

theorem standardTypes_named : ∀ node ∈ standardTypes, node.Named := by decide +kernel

/-- Merging brings in no names but those of the two bodies. -/
theorem named_merge {b c : Body} (hb : b.Named) (hc : c.Named) : (b.merge c).Named := by
  cases b <;> cases c <;>
    first
    | exact hb
    | exact List.forall_mem_append.2 ⟨hb, hc⟩

theorem named_foldl_merge {nodes : List TypeNode} {b : Body} (hb : b.Named)
    (hnodes : ∀ node ∈ nodes, node.Named) : (nodes.foldl (·.merge ·.body) b).Named := by
  induction nodes generalizing b with
  | nil => exact hb
  | cons node nodes ih =>
    rw [List.forall_mem_cons] at hnodes
    exact ih (named_merge hb hnodes.1.2) hnodes.2

theorem allTypes_named {d : Document} (hd : ∀ node ∈ d.typeNodes, node.Named) :
    ∀ node ∈ allTypes d, node.Named := by
  intro node hnode
  rcases List.mem_append.1 hnode with hstd | hdef
  · exact standardTypes_named node hstd
  · obtain ⟨source, hsource, rfl⟩ := List.mem_map.1 hdef
    split
    · rename_i standard hfound
      exact standardTypes_named standard (List.mem_of_find?_eq_some hfound)
    · have hnamed := hd source (mem_typeDefinitions_iff.1 hsource).1
      refine ⟨hnamed.1, named_foldl_merge hnamed.2 fun extender hext => ?_⟩
      exact hd extender (List.mem_filter.1 (List.mem_filter.1 hext).1).1

/-! ## Definitions -/

/-- All names in a definition are names of the language. -/
structure Definition.Named (x : Definition) : Prop where
  name : Sdl.Named x.name
  inputValues : ∀ v ∈ x.inputValues, Sdl.Named v.name ∧ Sdl.Named v.type.innermost
  objectFields : ∀ f ∈ x.objectFields, Sdl.Named f.name
  enumValues : ∀ v ∈ x.enumValues, Sdl.Named v.name

theorem definitionOf?_named {node : TypeNode} (hnode : node.Named) {x : Definition}
    (h : definitionOf? node = some x) : x.Named := by
  obtain ⟨hname, hbody⟩ := hnode
  rw [definitionOf?] at h
  cases hb : node.body with
  | enum values =>
    rw [hb] at h hbody
    cases h
    exact ⟨hname, List.forall_mem_nil _, List.forall_mem_nil _, List.forall_mem_map.2 hbody⟩
  | inputObject fields =>
    rw [hb] at h hbody
    cases h
    exact ⟨hname, List.forall_mem_map.2 hbody, List.forall_mem_nil _, List.forall_mem_nil _⟩
  | object is fields =>
    rw [hb] at h hbody
    cases h
    have arguments_named : ∀ v ∈ (fields.map objectField).flatMap (·.arguments),
        Sdl.Named v.name ∧ Sdl.Named v.type.innermost := by
      intro v hv
      obtain ⟨f, hf, hv⟩ := List.mem_flatMap.1 hv
      obtain ⟨d, hd, rfl⟩ := List.mem_map.1 hf
      obtain ⟨a, ha, rfl⟩ := List.mem_map.1 hv
      exact (hbody d hd).2.2 a ha
    exact ⟨hname, arguments_named, List.forall_mem_map.2 fun d hd => (hbody d hd).1,
      List.forall_mem_nil _⟩
  | scalar => simp [hb] at h
  | interface => simp [hb] at h
  | union => simp [hb] at h

/-- All names in the schema of a text are names of the language. -/
theorem parse_named {sdl : String} {s : Schema} (h : Schema.parse sdl = .ok s) :
    ∀ x ∈ s.definitions, x.Named := by
  obtain ⟨d, names, hd, built⟩ := built_of_parse h
  intro x hx
  obtain ⟨-, node, hnode, hdef⟩ := built.mem_definitions_iff.1 hx
  have hnamed := allTypes_named (parseDocument_named hd) node (findType?_mem hnode)
  exact definitionOf?_named hnamed hdef

end SdlPhp
