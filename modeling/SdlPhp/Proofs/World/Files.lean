import SdlPhp.Proofs.Attempt
import SdlPhp.World.Basic

/-!
# Files of a world

What writing does to the files of a world: a file that is written holds what was written, every
other file holds what it held, and making directories changes no file. Main statements: `saves_of_write`
and `files_ensureDirectory`.
-/

namespace SdlPhp.World

open Attempt

variable {w w' : World} {path : Path} {place : Place} {bytes : ByteArray}

/-! ## Putting a file -/

theorem mem_map_fst_putFile {files : List (Place × ByteArray)} {other : Place} :
    other ∈ (putFile files place bytes).map Prod.fst ↔
      other = place ∨ other ∈ files.map Prod.fst := by
  induction files with
  | nil => simp [putFile]
  | cons f fs ih =>
    by_cases hf : f.1 = place
    · simp [putFile, hf]
    · simp only [putFile, hf, if_false, List.map_cons, List.mem_cons, ih]
      exact or_left_comm

theorem find?_putFile_self (files : List (Place × ByteArray)) (place : Place)
    (bytes : ByteArray) :
    (putFile files place bytes).find? (·.1 == place) = some (place, bytes) := by
  induction files with
  | nil => simp [putFile]
  | cons f fs ih =>
    by_cases hf : f.1 = place
    · simp [putFile, hf]
    · simp [putFile, hf, ih]

theorem find?_putFile_of_ne (files : List (Place × ByteArray)) {place other : Place}
    (bytes : ByteArray) (h : other ≠ place) :
    (putFile files place bytes).find? (·.1 == other) = files.find? (·.1 == other) := by
  induction files with
  | nil => simp [putFile, h.symm]
  | cons f fs ih =>
    by_cases hf : f.1 = place
    · simp [putFile, hf, h.symm]
    · simp [putFile, hf, List.find?_cons, ih]

/-- The world with one file changed or made. -/
def withFile (w : World) (place : Place) (bytes : ByteArray) : World :=
  { w with files := putFile w.files place bytes }

theorem file?_withFile_self (w : World) (place : Place) (bytes : ByteArray) :
    (w.withFile place bytes).file? place = some bytes := by
  simp [file?, withFile, find?_putFile_self]

theorem file?_withFile_of_ne (w : World) {place other : Place} (bytes : ByteArray)
    (h : other ≠ place) : (w.withFile place bytes).file? other = w.file? other := by
  simp [file?, withFile, find?_putFile_of_ne _ bytes h]

theorem file?_congr (h : w'.files = w.files) (place : Place) : w'.file? place = w.file? place := by
  rw [file?, h, file?]

/-! ## Places -/

theorem any_files_withFile (p : Place → Bool) :
    (w.withFile place bytes).files.any (fun f => p f.1) =
      (p place || w.files.any fun f => p f.1) := by
  have through (files : List (Place × ByteArray)) :
      files.any (fun f => p f.1) = (files.map Prod.fst).any p := by
    rw [List.any_map]
    rfl
  rw [through, through, Bool.eq_iff_iff]
  simp only [withFile, List.any_eq_true, mem_map_fst_putFile, Bool.or_eq_true]
  constructor
  · rintro ⟨other, rfl | hother, h⟩
    · exact .inl h
    · exact .inr ⟨other, hother, h⟩
  · rintro (h | ⟨other, hother, h⟩)
    · exact ⟨place, .inl rfl, h⟩
    · exact ⟨other, .inr hother, h⟩

/-- A new file makes the places above it directories, and nothing else. -/
theorem isDirectoryAt_withFile (other : Place) :
    (w.withFile place bytes).isDirectoryAt other =
      (w.isDirectoryAt other || (other.isPrefixOf place && place ≠ other)) := by
  rw [isDirectoryAt, isDirectoryAt,
    any_files_withFile fun f => other.isPrefixOf f && f ≠ other, withFile]
  simp only [Bool.or_assoc, Bool.or_comm, Bool.or_left_comm]

theorem isDirectoryAt_withFile_self :
    (w.withFile place bytes).isDirectoryAt place = w.isDirectoryAt place := by
  simp [isDirectoryAt_withFile]

/-- Where there are more directories, paths lead where they led. -/
theorem locate_of_isDirectoryAt
    (h : ∀ other, w.isDirectoryAt other = true → w'.isDirectoryAt other = true)
    (hplace : w.locate path = .ok place) : w'.locate path = .ok place := by
  have step : ∀ part here there, w.step here part = .ok there → w'.step here part = .ok there := by
    intro part here there hstep
    rw [World.step] at hstep
    split at hstep
    · rename_i hdir
      rw [World.step, if_pos (h here hdir)]
      exact hstep
    · split at hstep <;> cases hstep
  have steps : ∀ (parts : List String) (here there : Place),
      parts.foldlM w.step here = .ok there → parts.foldlM w'.step here = .ok there := by
    intro parts
    induction parts with
    | nil => exact fun _ _ hsteps => hsteps
    | cons part parts ih =>
      intro here there hsteps
      obtain ⟨next, hnext, hrest⟩ := foldlM_cons_eq_ok.1 hsteps
      exact foldlM_cons_eq_ok.2 ⟨next, step part here next hnext, ih next there hrest⟩
  rw [locate] at hplace ⊢
  split at hplace
  · cases hplace
  · split at hplace
    · cases hplace
    · split at hplace
      · cases hplace
      · rename_i hnull hlong
        simp only [hnull, hlong, if_false]
        exact steps _ _ _ hplace

/-! ## Writing -/

/-- In the second world the path leads to a file with these bytes, and all other files are as in the
first one. -/
structure Saves (w : World) (path : Path) (bytes : ByteArray) (w' : World) : Prop where
  read : w'.read path = .ok bytes
  others : ∀ place, w'.locate path ≠ .ok place → w'.file? place = w.file? place

theorem read_of_file? (hplace : w.locate path = .ok place) (hdir : w.isDirectoryAt place = false)
    (hfile : w.file? place = some bytes) : w.read path = .ok bytes := by
  simp only [read, hplace, bind, Except.bind, hdir, hfile]
  rfl

theorem write_eq_ok : w.write path bytes = .ok w' ↔
    ∃ place, w.locate path = .ok place ∧ w.isDirectoryAt place = false ∧
      w' = w.withFile place bytes := by
  rw [write, bind_eq_ok]
  refine exists_congr fun place => and_congr_right fun _ => ?_
  cases w.isDirectoryAt place with
  | true => simp [throw, throwThe, MonadExceptOf.throw]
  | false => simpa [pure_eq_ok, withFile] using eq_comm

theorem saves_of_write (h : w.write path bytes = .ok w') : w.Saves path bytes w' := by
  obtain ⟨place, hplace, hdir, rfl⟩ := write_eq_ok.1 h
  have located : (w.withFile place bytes).locate path = .ok place :=
    locate_of_isDirectoryAt (fun other hother => by simp [isDirectoryAt_withFile, hother]) hplace
  exact {
    read := read_of_file? located (isDirectoryAt_withFile_self.trans hdir)
      (file?_withFile_self w place bytes)
    others := fun other hother =>
      file?_withFile_of_ne w bytes fun he => hother (he ▸ located) }

theorem Saves.of_files {v : World} (h : w.Saves path bytes w') (hfiles : w.files = v.files) :
    v.Saves path bytes w' where
  read := h.read
  others := fun place hplace => (h.others place hplace).trans (file?_congr hfiles place)

theorem existsAt_of_read (h : w.read path = .ok bytes) : w.existsAt path = .ok true := by
  obtain ⟨place, hplace, h⟩ := bind_eq_ok.1 h
  have file : w.isFileAt place = true ∨ w.isDirectoryAt place = true := by
    cases hdir : w.isDirectoryAt place with
    | true => exact .inr rfl
    | false =>
      refine .inl ?_
      rw [isFileAt]
      cases hfile : w.file? place with
      | some found => rfl
      | none => simp [hdir, hfile, throw, throwThe, MonadExceptOf.throw] at h
  rw [existsAt, holdsAt, hplace]
  exact congrArg Except.ok (by simpa [or_comm] using file)

theorem isDirectory_of_read (h : w.read path = .ok bytes) : w.isDirectory path = .ok false := by
  obtain ⟨place, hplace, h⟩ := bind_eq_ok.1 h
  rw [isDirectory, holdsAt, hplace]
  cases hdir : w.isDirectoryAt place with
  | true => simp [hdir, throw, throwThe, MonadExceptOf.throw] at h
  | false => exact congrArg Except.ok hdir

/-! ## Making directories -/

theorem files_of_makeDirectory (h : w.makeDirectory path = .ok w') : w'.files = w.files := by
  obtain ⟨place, -, h⟩ := bind_eq_ok.1 h
  split at h
  · cases h
  · rw [← pure_eq_ok.1 h]

theorem files_ensureLast (w : World) (path : Path) : (w.ensureLast path).1.files = w.files := by
  rw [ensureLast]
  split
  · rename_i made
    exact files_of_makeDirectory made
  · split_ifs <;> rfl

/-- Making directories changes no file, also where it fails. -/
theorem files_ensureDirectory (w : World) (path : Path) (depth : Nat) :
    (w.ensureDirectory path depth).1.files = w.files := by
  induction depth generalizing path with
  | zero => exact files_ensureLast w path
  | succ depth ih =>
    rw [ensureDirectory]
    split
    · split
      · rfl
      · have above := ih path.parent
        split
        · rename_i made heq
          rw [heq] at above
          exact (files_ensureLast made path).trans above
        · exact above
    · exact files_ensureLast w path

end SdlPhp.World
