import SdlPhp.Proofs.Attempt
import SdlPhp.Proofs.Sdl.Validity

/-!
# Collected types

Types are collected depth first, and the fuel bounds the length of a chain of new types. A collected
type is settled once its fields have been resolved and all that it names is collected. Main
statements: one collecting settles every type that it adds (`collect_grows`), so that in the end
every type of a valid document is collected and settled (`collectAll_ok`).
-/

namespace SdlPhp

open Attempt Sdl

variable (types : List TypeNode)

/-- The fields of the type can be resolved, and all that it names is collected. A name that no type
has is settled too. -/
def Settled (collected : List String) (name : String) : Prop :=
  ∀ node, findType? types name = some node →
    resolveFields types node = .ok () ∧ node.body.references ⊆ collected

/-- What collecting does to the collected types: none is lost or doubled, and the new ones are
settled. -/
structure Grows (before after : List String) : Prop where
  subset : before ⊆ after
  nodup : before.Nodup → after.Nodup
  settled : ∀ n ∈ after, n ∉ before → Settled types after n

/-- The number of types whose names are not collected. -/
def missing (collected : List String) : Nat := types.countP fun t => !collected.contains t.name

variable {types}

theorem Settled.mono {S T : List String} {name : String} (h : Settled types S name) (hST : S ⊆ T) :
    Settled types T name :=
  fun node hnode => ⟨(h node hnode).1, fun _ hn => hST ((h node hnode).2 hn)⟩

namespace Grows

variable {S T U : List String}

protected theorem refl (S : List String) : Grows types S S where
  subset := List.Subset.refl S
  nodup := id
  settled _ hn hnew := absurd hn hnew

protected theorem trans (h : Grows types S T) (h' : Grows types T U) : Grows types S U where
  subset := List.Subset.trans h.subset h'.subset
  nodup := h'.nodup ∘ h.nodup
  settled n hn hnew := by
    by_cases hT : n ∈ T
    · exact (h.settled n hT hnew).mono h'.subset
    · exact h'.settled n hn hT

/-- Adding a name first, which the rest of the collecting settles. -/
theorem of_append {name : String} (hname : name ∉ S) (h : Grows types (S ++ [name]) T)
    (hsettled : Settled types T name) : Grows types S T where
  subset := List.Subset.trans (List.subset_append_left S [name]) h.subset
  nodup hS := h.nodup (by
    rw [List.nodup_append]
    refine ⟨hS, by simp, fun a ha b hb => ?_⟩
    rw [List.mem_singleton.1 hb]
    exact fun e => hname (e ▸ ha))
  settled n hn hnew := by
    by_cases hlast : n = name
    · exact hlast ▸ hsettled
    · exact h.settled n hn (by simp [hnew, hlast])

end Grows

/-! ## Fuel -/

theorem missing_le_length (types : List TypeNode) (S : List String) :
    missing types S ≤ types.length :=
  List.countP_le_length

theorem missing_anti {S T : List String} (h : S ⊆ T) : missing types T ≤ missing types S := by
  apply List.countP_mono_left
  intro t _ ht
  simp only [Bool.not_eq_true', List.contains_eq_mem, decide_eq_false_iff_not] at ht ⊢
  exact fun hS => ht (h hS)

theorem findType?_name {name : String} {node : TypeNode} (h : findType? types name = some node) :
    node.name = name := by
  simpa using List.find?_some h

theorem findType?_mem {name : String} {node : TypeNode} (h : findType? types name = some node) :
    node ∈ types :=
  List.mem_of_find?_eq_some h

/-- Collecting a type leaves fewer types to collect. -/
theorem missing_append_lt {S : List String} {name : String} {node : TypeNode}
    (hnode : findType? types name = some node) (hname : name ∉ S) :
    missing types (S ++ [name]) < missing types S := by
  obtain ⟨before, after, hsplit⟩ := List.append_of_mem (findType?_mem hnode)
  have hbefore : missing before (S ++ [name]) ≤ missing before S :=
    missing_anti (List.subset_append_left S [name])
  have hafter : missing after (S ++ [name]) ≤ missing after S :=
    missing_anti (List.subset_append_left S [name])
  have hnew : (!(S ++ [name]).contains node.name) = false := by simp [findType?_name hnode]
  have hold : (!S.contains node.name) = true := by simpa [findType?_name hnode] using hname
  simp only [missing, hsplit, List.countP_append, List.countP_cons, hnew, hold] at *
  simp only [Bool.false_eq_true, if_false, if_true]
  omega

/-! ## Collecting -/

section Collect

variable {fuel : Nat} {S T : List String} {name : String}

/-- Collecting one name after the other, where each step is known to be right as long as there is
enough fuel for it. -/
theorem foldlM_grows {step : List String → String → Except BuildFault (List String)}
    (hstep : ∀ {S T name}, missing types S < fuel → step S name = .ok T →
      Grows types S T ∧ name ∈ T)
    {names : List String} (hfuel : missing types S < fuel) (h : names.foldlM step S = .ok T) :
    Grows types S T ∧ names ⊆ T := by
  induction names generalizing S with
  | nil =>
    cases pure_eq_ok.1 h
    exact ⟨.refl T, List.nil_subset T⟩
  | cons n names ih =>
    obtain ⟨U, hU, hrest⟩ := foldlM_cons_eq_ok.1 h
    obtain ⟨grows, hn⟩ := hstep hfuel hU
    obtain ⟨grows', hnames⟩ := ih (Nat.lt_of_le_of_lt (missing_anti grows.subset) hfuel) hrest
    exact ⟨grows.trans grows', List.cons_subset.2 ⟨grows'.subset hn, hnames⟩⟩

theorem refuse_eq_ok {fault : Option BuildFault} {u : Unit} :
    refuse fault = .ok u ↔ fault = none := by
  cases fault <;> simp [refuse]

/-- What a type adds once its own name is collected: its members, its interfaces, and what its
fields name. -/
theorem collect_succ_of_findType? {node : TypeNode} (hname : name ∉ S)
    (hnode : findType? types name = some node) (h : collect types (fuel + 1) S name = .ok T) :
    resolveFields types node = .ok () ∧
      (memberReferences node ++ interfaceReferences node ++ fieldReferences node).foldlM
        (collect types fuel) (S ++ [name]) = .ok T := by
  rw [collect, if_neg (by simpa using hname)] at h
  simp only [hnode] at h
  obtain ⟨_, -, h⟩ := bind_eq_ok.1 h
  obtain ⟨U, hU, h⟩ := bind_eq_ok.1 h
  obtain ⟨_, -, h⟩ := bind_eq_ok.1 h
  obtain ⟨V, hV, h⟩ := bind_eq_ok.1 h
  obtain ⟨_, hresolve, h⟩ := bind_eq_ok.1 h
  refine ⟨hresolve, ?_⟩
  rw [List.foldlM_append, List.foldlM_append]
  exact bind_eq_ok.2 ⟨V, bind_eq_ok.2 ⟨U, hU, hV⟩, h⟩

/-- With fuel for all that is missing, collecting a type adds it and settles all that it adds. -/
theorem collect_grows (hfuel : missing types S < fuel) (h : collect types fuel S name = .ok T) :
    Grows types S T ∧ name ∈ T := by
  induction fuel generalizing S T name with
  | zero => omega
  | succ fuel ih =>
    by_cases hname : name ∈ S
    · rw [collect, if_pos (by simpa using hname)] at h
      cases h
      exact ⟨.refl S, hname⟩
    · cases hnode : findType? types name with
      | none =>
        rw [collect, if_neg (by simpa using hname)] at h
        simp only [hnode] at h
        cases h
        have unknown : Settled types (S ++ [name]) name := by
          intro node hfound
          rw [hnode] at hfound
          cases hfound
        exact ⟨.of_append hname (.refl _) unknown, by simp⟩
      | some node =>
        obtain ⟨hresolve, hfold⟩ := collect_succ_of_findType? hname hnode h
        have hless := missing_append_lt hnode hname
        obtain ⟨grows, hnamed⟩ := foldlM_grows (fun hf hc => ih hf hc) (by omega) hfold
        have hself : name ∈ T := grows.subset (by simp)
        have settled : Settled types T name := by
          intro other hother
          cases hnode.symm.trans hother
          refine ⟨hresolve, fun n hn => hnamed ?_⟩
          rw [mem_references_iff] at hn
          simpa [or_assoc] using hn
        exact ⟨.of_append hname grows settled, hself⟩

end Collect

/-! ## Collecting the defined types anew -/

/-- Each collected type has its turn still before it or is settled. -/
structure Covered (types : List TypeNode) (pending collected : List String) : Prop where
  nodup : collected.Nodup
  settled : ∀ n ∈ collected, n ∈ pending ∨ Settled types collected n

theorem recollect_covered {pending S T : List String} {name : String}
    (hS : Covered types (name :: pending) S) (h : recollect types S name = .ok T) :
    Covered types pending T ∧ S ⊆ T := by
  have hfuel : missing types (S.erase name) < types.length + 1 := by
    have := missing_le_length types (S.erase name)
    omega
  obtain ⟨grows, hname⟩ := collect_grows hfuel h
  have hsub : S ⊆ T := by
    intro n hn
    by_cases hself : n = name
    · exact hself ▸ hname
    · exact grows.subset ((List.mem_erase_of_ne hself).2 hn)
  refine ⟨⟨grows.nodup (hS.nodup.erase name), fun n hn => ?_⟩, hsub⟩
  by_cases hold : n ∈ S.erase name
  · obtain ⟨hself, hmem⟩ := hS.nodup.mem_erase_iff.1 hold
    rcases hS.settled n hmem with hpending | hsettled
    · exact Or.inl ((List.mem_cons.1 hpending).resolve_left hself)
    · exact Or.inr (hsettled.mono hsub)
  · exact Or.inr (grows.settled n hn hold)

theorem foldlM_recollect_covered {pending S T : List String}
    (hS : Covered types pending S)
    (h : pending.foldlM (recollect types) S = .ok T) :
    Covered types [] T ∧ S ⊆ T := by
  induction pending generalizing S with
  | nil =>
    cases pure_eq_ok.1 h
    exact ⟨hS, List.Subset.refl T⟩
  | cons n pending ih =>
    obtain ⟨U, hU, hrest⟩ := foldlM_cons_eq_ok.1 h
    obtain ⟨covered, hsub⟩ := recollect_covered hS hU
    obtain ⟨covered', hsub'⟩ := ih covered hrest
    exact ⟨covered', List.Subset.trans hsub hsub'⟩

/-! ## All types -/

theorem definedTypes_names (d : Document) :
    (definedTypes d).map (·.name) = d.typeDefinitions.map (·.name) := by
  rw [definedTypes, List.map_map]
  apply List.map_congr_left
  intro node _
  simp only [Function.comp_apply]
  cases h : standardTypes.find? (·.name == node.name) with
  | none => rfl
  | some standard => simpa using List.find?_some h

/-- All types of a valid document are collected once, and all that is collected is settled. -/
theorem collectAll_ok {d : Document} (hd : d.Valid) {names : List String}
    (h : collectAll d = .ok names) :
    names.Nodup ∧ d.typeDefinitions.map (·.name) ⊆ names ∧
      ∀ n ∈ names, Settled (allTypes d) names n := by
  rw [collectAll] at h
  obtain ⟨_, -, h⟩ := bind_eq_ok.1 h
  obtain ⟨_, -, h⟩ := bind_eq_ok.1 h
  obtain ⟨S, hS, h⟩ := bind_eq_ok.1 h
  rw [definedTypes_names] at hS
  have start : Covered (allTypes d) (d.typeDefinitions.map (·.name))
      (d.typeDefinitions.map (·.name)) := ⟨hd.names_nodup, fun n hn => Or.inl hn⟩
  obtain ⟨covered, hsub⟩ := foldlM_recollect_covered start hS
  have hfuel : missing (allTypes d) S < (allTypes d).length + 1 := by
    have := missing_le_length (allTypes d) S
    omega
  obtain ⟨grows, -⟩ := foldlM_grows (fun hf hc => collect_grows hf hc) hfuel h
  refine ⟨grows.nodup covered.nodup, List.Subset.trans hsub grows.subset, fun n hn => ?_⟩
  by_cases hold : n ∈ S
  · rcases covered.settled n hold with hpending | hsettled
    · cases hpending
    · exact hsettled.mono grows.subset
  · exact grows.settled n hn hold

end SdlPhp
