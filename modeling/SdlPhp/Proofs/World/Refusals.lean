import SdlPhp.Proofs.World.Files

/-!
# Refusals of the file system

Some paths lead nowhere in any world: those that hold a null character, or half a surrogate pair
that stands for no byte. They are the paths for which the file system is not asked at all
(`fails_locate_iff`), and so neither a file nor a directory can be made there (`fails_write_iff`,
`leadsNowhere_of_ensureDirectory`). What is at a path can be said but where a name is too long
(`holdsAt_eq_error_iff`).
-/

namespace SdlPhp

open Attempt

/-! ## Paths that lead nowhere -/

/-- The path holds what no path can hold. -/
def Path.LeadsNowhere (path : Path) : Prop :=
  (∃ p ∈ Text.codePoints path.text.toList, World.pointSize? p = none) ∨
    ∃ part ∈ path.parts, '\x00' ∈ part.toList

/-- Halves of surrogate pairs stay where more text is put behind them. -/
theorem Text.half_mem_codePoints_append {unit : Nat} {cs : List Char}
    (h : .half unit ∈ Text.codePoints cs) (ds : List Char) :
    .half unit ∈ Text.codePoints (cs ++ ds) := by
  induction cs using Text.codePoints.induct with
  | case1 => cases h
  | case2 c => simp [Text.codePoints] at h
  | case3 d cs ih =>
    rw [Text.codePoints, if_pos rfl, List.mem_cons] at h
    rw [List.cons_append, List.cons_append, Text.codePoints, if_pos rfl, List.mem_cons]
    exact h.imp_right ih
  | case4 c d cs hc ih =>
    rw [Text.codePoints, if_neg hc, List.mem_cons] at h
    rw [List.cons_append, List.cons_append, Text.codePoints, if_neg hc, List.mem_cons]
    exact h.imp_right ih

/-- Only halves of surrogate pairs may have no bytes. -/
theorem World.eq_half_of_pointSize? {p : Text.CodePoint} (h : pointSize? p = none) :
    ∃ unit, p = .half unit := by
  cases p with
  | char c => cases h
  | half unit => exact ⟨unit, rfl⟩

theorem Path.text_parent (path : Path) :
    path.parent.text = "." ∨ path.parent.text.toList <+: path.text.toList := by
  have front : (path.root.text ++ "/".intercalate path.parts.dropLast).toList <+:
      (path.root.text ++ "/".intercalate path.parts).toList := by
    rw [String.toList_append, String.toList_append, List.prefix_append_right_inj]
    rcases List.eq_nil_or_concat' path.parts with hparts | ⟨parts, last, hparts⟩
    · simp [hparts]
    · rw [hparts, List.dropLast_concat]
      by_cases hempty : parts = []
      · simp [hempty]
      · rw [String.intercalate_append_of_ne_nil hempty (List.cons_ne_nil last []),
          String.toList_append, String.toList_append, List.append_assoc]
        exact List.prefix_append _ _
  rw [Path.text, Path.text, Path.parent]
  dsimp only
  split
  · exact .inl rfl
  · rename_i hparent
    refine .inr ?_
    rw [if_neg]
    · exact front
    · intro hpath
      rw [String.isEmpty_iff] at hparent hpath
      rw [hpath, String.toList_empty, List.prefix_nil] at front
      exact hparent (String.toList_eq_nil_iff.1 front)

/-- Below a path that leads nowhere no path leads anywhere. -/
theorem Path.LeadsNowhere.of_parent {path : Path} (h : path.parent.LeadsNowhere) :
    path.LeadsNowhere := by
  rcases h with ⟨p, hp, hsize⟩ | ⟨part, hpart, hnull⟩
  · obtain ⟨unit, rfl⟩ := World.eq_half_of_pointSize? hsize
    rcases path.text_parent with hdot | ⟨behind, htext⟩
    · rw [hdot] at hp
      exact absurd hp (by simp [Text.codePoints])
    · exact .inl ⟨_, htext ▸ Text.half_mem_codePoints_append hp behind, hsize⟩
  · exact .inr ⟨part, List.dropLast_subset _ hpart, hnull⟩

namespace World

variable {w w' : World} {path : Path} {fault : SystemFault}

/-! ## Looking for a path -/

theorem nameSize?_eq_none_iff {name : String} :
    nameSize? name = none ↔ ∃ p ∈ Text.codePoints name.toList, pointSize? p = none := by
  rw [nameSize?, Option.map_eq_none_iff]
  induction Text.codePoints name.toList with
  | nil => simp
  | cons p ps ih =>
    cases hp : pointSize? p with
    | none => simp [hp]
    | some size => cases hps : ps.mapM pointSize? <;> simp [hp, hps, ← ih]

/-- A step of a path is a matter of the world. -/
theorem not_fails_step (place : Place) (part : String) :
    ¬ Fails SystemFault.isNoPath (w.step place part) := by
  rw [step]
  split_ifs <;> simp [SystemFault.isNoPath]

theorem fails_locate_iff : Fails SystemFault.isNoPath (w.locate path) ↔ path.LeadsNowhere := by
  rw [Path.LeadsNowhere, ← nameSize?_eq_none_iff, locate]
  have hnull : (∃ part ∈ path.parts, '\x00' ∈ part.toList) ↔
      path.parts.any (·.toList.contains '\x00') = true := by
    simp only [List.any_eq_true, List.contains_iff_mem]
  rw [hnull]
  cases nameSize? path.text with
  | none => simp [SystemFault.isNoPath]
  | some size =>
    dsimp only
    split
    · rename_i hyes
      exact iff_of_true (fails_error.2 rfl) (.inr hyes)
    · rename_i hno
      simp only [reduceCtorEq, false_or, hno, iff_false]
      split
      · simp [SystemFault.isNoPath]
      · exact not_fails_foldlM not_fails_step _ _

theorem holdsAt_eq_error_iff {p : Place → Bool} :
    w.holdsAt path p = .error fault ↔
      fault = .nameTooLong ∧ w.locate path = .error .nameTooLong := by
  rw [holdsAt]
  cases w.locate path with
  | ok place => simp
  | error other => cases other <;> simp [eq_comm]

/-! ## Making files and directories -/

/-- What is done at a place does not fail because there is none. -/
theorem fails_locate_bind_iff {α : Type} {f : Place → Except SystemFault α}
    (h : ∀ place, ¬ Fails SystemFault.isNoPath (f place)) :
    Fails SystemFault.isNoPath (w.locate path >>= f) ↔ path.LeadsNowhere := by
  rw [fails_bind, fails_locate_iff, or_iff_left]
  rintro ⟨place, -, hplace⟩
  exact h place hplace

theorem fails_write_iff {bytes : ByteArray} :
    Fails SystemFault.isNoPath (w.write path bytes) ↔ path.LeadsNowhere := by
  refine fails_locate_bind_iff fun place => ?_
  split
  · exact not_fails_of_error rfl rfl
  · exact not_fails_ok _

theorem fails_makeDirectory_iff :
    Fails SystemFault.isNoPath (w.makeDirectory path) ↔ path.LeadsNowhere := by
  refine fails_locate_bind_iff fun place => ?_
  split
  · exact not_fails_of_error rfl rfl
  · exact not_fails_ok _

theorem leadsNowhere_of_ensureLast {refused : Path}
    (h : w.ensureLast path = (w', some (fault, refused))) (hno : fault.isNoPath = true) :
    path.LeadsNowhere := by
  rw [ensureLast] at h
  split at h
  · cases h
  · rename_i other hother
    split_ifs at h <;> cases h
    exact fails_makeDirectory_iff.1 ⟨fault, hother, hno⟩

/-- Where a directory cannot be made because a path on the way to it leads nowhere, its own path
leads nowhere. -/
theorem leadsNowhere_of_ensureDirectory {refused : Path} {depth : Nat}
    (h : w.ensureDirectory path depth = (w', some (fault, refused)))
    (hno : fault.isNoPath = true) : path.LeadsNowhere := by
  induction depth generalizing path with
  | zero => exact leadsNowhere_of_ensureLast h hno
  | succ depth ih =>
    rw [ensureDirectory] at h
    split at h
    · split at h
      · cases h
        cases hno
      · rcases habove : w.ensureDirectory path.parent depth with ⟨made, _ | failed⟩ <;>
          rw [habove] at h
        · exact leadsNowhere_of_ensureLast h hno
        · cases h
          exact (ih habove).of_parent
    · exact leadsNowhere_of_ensureLast h hno

theorem ensureDirectory_of_leadsNowhere (w : World) (h : path.LeadsNowhere) (depth : Nat) :
    ∃ fault, w.ensureDirectory path depth = (w, some (fault, path)) ∧ fault.isNoPath = true := by
  obtain ⟨fault, hfault, hno⟩ := fails_locate_iff (w := w).2 h
  have made : w.makeDirectory path = .error fault := by
    rw [makeDirectory, hfault]
    rfl
  have last : w.ensureLast path = (w, some (fault, path)) := by
    have asked : w.isDirectory path = .ok false := by
      rw [isDirectory, holdsAt, hfault]
      cases fault <;> first | rfl | cases hno
    rw [ensureLast, made]
    simp [asked]
  refine ⟨fault, ?_, hno⟩
  cases depth with
  | zero => exact last
  | succ depth =>
    rw [ensureDirectory, made]
    cases fault <;> first | exact last | cases hno

end World

end SdlPhp
