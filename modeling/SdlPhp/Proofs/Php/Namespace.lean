import SdlPhp.Php.Namespace
import SdlPhp.Proofs.Generation.Identifiers

/-!
# Segments of a namespace

The components of a path give the segments of its namespace one by one: those with a letter or digit
give their name in pascal case, and all others give none (`namespaceSegments_eq`). So it does not
matter for them where the path is cut at a slash, and cutting the namespace at its backslashes gives
them back (`namespaceSegments_append`).
-/

namespace SdlPhp.Php

open Naming

/-- What stands between the slashes of a path. -/
def components (path : String) : List String := (Text.pieces '/' path.toList).map String.ofList

/-- The component holds a letter or digit, and is not the root of a drive. -/
def givesSegment (part : String) : Bool :=
  part.toList.any Char.isAlphanum && !":\\".toList.isSuffixOf part.toList

theorem components_append (p q : String) :
    components (p ++ "/" ++ q) = components p ++ components q := by
  have slash : (p ++ "/" ++ q).toList = p.toList ++ '/' :: q.toList := by simp
  rw [components, slash, Text.pieces_append, List.map_append, components, components]

/-! ## Components without a segment -/

theorem isEmpty_toPascal (part : String) :
    (toPascal part).isEmpty = !part.toList.any Char.isAlphanum := by
  have first := head?_pascal part.toList
  rw [Bool.eq_iff_iff, String.isEmpty_iff, ← String.toList_eq_nil_iff, toList_toPascal,
    ← List.head?_eq_none_iff, first, Option.map_eq_none_iff, List.find?_eq_none]
  simp

/-- Roots and steps upwards hold no letter or digit. -/
theorem isDirectoryName_and_any (part : String) :
    (isDirectoryName part && part.toList.any Char.isAlphanum) = givesSegment part := by
  unfold isDirectoryName givesSegment
  by_cases hroot : part = "/"
  · subst hroot
    decide
  by_cases hdot : part = "."
  · subst hdot
    decide
  by_cases hup : part = ".."
  · subst hup
    decide
  simp [hroot, hdot, hup, Bool.and_comm]

theorem segments_of_parts (parts : List String) :
    ((parts.filter isDirectoryName).map toPascal).filter (!·.isEmpty) =
      (parts.filter givesSegment).map toPascal := by
  rw [List.filter_map, List.filter_filter]
  refine congrArg _ (List.filter_congr fun part _ => ?_)
  rw [Function.comp_apply, isEmpty_toPascal, Bool.not_not, Bool.and_comm, isDirectoryName_and_any]

theorem givesSegment_of_isIdle {part : List Char} (h : Path.isIdle part = true) :
    givesSegment (String.ofList part) = false := by
  rw [Path.isIdle, Bool.or_eq_true, List.isEmpty_iff, beq_iff_eq] at h
  rcases h with rfl | rfl <;> decide

theorem givesSegment_root (root : PathRoot) : givesSegment root.text = false := by
  cases root <;> decide

/-- The root of a path gives no segment, and of its parts those with a letter or digit do. -/
theorem namespaceSegments_eq_parts (path : Path) :
    namespaceSegments path = (path.parts.filter givesSegment).map toPascal := by
  rw [namespaceSegments, segments_of_parts, Path.allParts]
  split
  · rfl
  · rw [List.filter_cons_of_neg]
    simp [givesSegment_root]

/-- Every component with a letter or digit that is no drive gives a segment, and no other one. -/
theorem namespaceSegments_eq (path : String) :
    namespaceSegments (Path.ofText path) =
      ((components path).filter givesSegment).map toPascal := by
  rw [namespaceSegments_eq_parts, Path.ofText, components, List.filter_map, List.filter_map,
    List.filter_filter]
  refine congrArg _ (congrArg _ (List.filter_congr fun part _ => ?_))
  cases hidle : Path.isIdle part with
  | true => rw [Function.comp_apply, givesSegment_of_isIdle hidle, Bool.false_and]
  | false => exact Bool.and_true _

/-! ## Shape of segments -/

/-- A text of letters and digits that does not start with a lower-case letter. -/
structure IsSegment (segment : String) : Prop where
  ne_empty : segment ≠ ""
  isAlphanum : ∀ c ∈ segment.toList, c.isAlphanum = true
  head : ∀ c, segment.toList.head? = some c → c.isLower = false

theorem isSegment_of_mem {path segment : String}
    (h : segment ∈ namespaceSegments (Path.ofText path)) : IsSegment segment := by
  have ne_empty := ne_empty_of_mem_namespaceSegments h
  rw [namespaceSegments_eq] at h
  obtain ⟨part, -, rfl⟩ := List.mem_map.1 h
  refine ⟨ne_empty, ?_, ?_⟩
  · rw [toList_toPascal]
    exact isAlphanum_of_mem_pascal part.toList
  · intro c hc
    rw [toList_toPascal, head?_pascal] at hc
    obtain ⟨d, hd, rfl⟩ := Option.map_eq_some_iff.1 hc
    exact forall_alphanum (p := fun d => d.toUpper.isLower = false) (by decide)
      (List.find?_some hd)

theorem IsSegment.backslash_not_mem {segment : String} (h : IsSegment segment) :
    '\\' ∉ segment.toList :=
  fun hmem => absurd (h.isAlphanum _ hmem) (by decide)

/-! ## The namespace -/

/-- A text that is cut into pieces none of which is empty has no separator at its ends. -/
theorem ends_of_pieces {sep : Char} {cs : List Char} (h : [] ∉ Text.pieces sep cs) :
    cs.head? ≠ some sep ∧ cs.getLast? ≠ some sep := by
  constructor
  · intro hhead
    obtain ⟨ds, rfl⟩ := List.head?_eq_some_iff.1 hhead
    rw [Text.pieces_cons_sep] at h
    exact h List.mem_cons_self
  · intro hlast
    obtain ⟨ds, rfl⟩ := List.getLast?_eq_some_iff.1 hlast
    rw [Text.pieces_append, List.mem_append, not_or] at h
    exact h.2 List.mem_cons_self

theorem ends_of_segments {ns : String} (h : ∀ segment ∈ Options.segments ns, segment ≠ "") :
    ns.toList.head? ≠ some '\\' ∧ ns.toList.getLast? ≠ some '\\' := by
  refine ends_of_pieces fun hnil => ?_
  exact h "" (List.mem_map.2 ⟨[], hnil, rfl⟩) rfl

/-- The namespace of segments is cut at its backslashes into them. -/
theorem segments_namespaceOfSegments {segments : List String}
    (h : ∀ segment ∈ segments, IsSegment segment) (hne : segments ≠ []) :
    Options.segments (namespaceOfSegments segments) = segments := by
  have hjoin : ("\\".intercalate segments).toList = Text.join '\\' (segments.map String.toList) :=
    String.toList_intercalate
  rw [Options.segments, namespaceOfSegments, if_neg (by simpa using hne), hjoin,
    Text.pieces_join_of_not_mem (by simpa using hne)]
  · simp
  · exact List.forall_mem_map.2 fun segment hsegment => (h segment hsegment).backslash_not_mem

/-- The segments of a path are those of its front, followed by those of its back, wherever it is cut
at a slash. Each of them is that of a component of the path, and starts with a digit or an upper-case
letter. They are what the namespace consists of, which is the default one if there are none. -/
theorem namespaceSegments_append (p q : String) :
    let segments (path : String) := namespaceSegments (Path.ofText path)
    let ns := namespaceOfDirectory p
    segments (p ++ "/" ++ q) = segments p ++ segments q ∧
      segments p = ((components p).filter givesSegment).map toPascal ∧
      (∀ segment ∈ segments p, IsSegment segment) ∧
      (segments p = [] → ns = defaultNamespace) ∧
      (segments p ≠ [] → Options.segments ns = segments p) ∧
      (∀ segment ∈ Options.segments ns, segment ≠ "") ∧
      ns.toList.head? ≠ some '\\' ∧ ns.toList.getLast? ≠ some '\\' := by
  intro segments ns
  have shape : ∀ segment ∈ segments p, IsSegment segment := fun _ => isSegment_of_mem
  have none_given : segments p = [] → ns = defaultNamespace :=
    fun hnil => congrArg namespaceOfSegments hnil
  have given : segments p ≠ [] → Options.segments ns = segments p :=
    segments_namespaceOfSegments shape
  have ne_empty : ∀ segment ∈ Options.segments ns, segment ≠ "" := by
    by_cases hnil : segments p = []
    · rw [none_given hnil]
      decide
    · rw [given hnil]
      exact fun segment hsegment => (shape segment hsegment).ne_empty
  refine ⟨?_, namespaceSegments_eq p, shape, none_given, given, ne_empty, ends_of_segments ne_empty⟩
  simp only [segments, namespaceSegments_eq, components_append, List.filter_append, List.map_append]

/-- A path with a root, steps, a drive and foreign letters, of which only two components count. -/
theorem namespaceSegments_append_graph_ql :
    let segments (path : String) := namespaceSegments (Path.ofText path)
    segments "//./src/../graph_ql/" = ["Src", "GraphQl"] ∧
      segments ("//./src/../graph_ql/" ++ "/" ++ "/c:\\/日本//2d") =
        ["Src", "GraphQl"] ++ ["2d"] ∧
      IsSegment "GraphQl" ∧ Options.segments (namespaceOfDirectory "//./src/../graph_ql/") =
        ["Src", "GraphQl"] := by
  intro segments
  have front : segments "//./src/../graph_ql/" = ["Src", "GraphQl"] := by decide +kernel
  have back : segments "/c:\\/日本//2d" = ["2d"] := by decide +kernel
  obtain ⟨happend, -, hshape, -, hgiven, -⟩ :=
    namespaceSegments_append "//./src/../graph_ql/" "/c:\\/日本//2d"
  have given : "GraphQl" ∈ segments "//./src/../graph_ql/" := by simp [front]
  refine ⟨front, ?_, hshape _ given, (hgiven (List.ne_nil_of_mem given)).trans front⟩
  rw [← front, ← back]
  exact happend

end SdlPhp.Php
