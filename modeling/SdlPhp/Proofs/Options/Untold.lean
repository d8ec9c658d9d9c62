import SdlPhp.Proofs.Options.Room
import SdlPhp.Proofs.World.Refusals

/-!
# Options that fail without a message

Which files of options make a loading fail with a fault that is not told as one of the options:
those with a name that is too long, those without a text in UTF-8, and those with a number that is
too long or values that are nested too deeply. What could be read can be written into a message.
Main statement: `fails_load_iff`.
-/

namespace SdlPhp

open Attempt

/-- What is wrong with the file of options is not told. -/
inductive World.UntoldOptions (w : World) (path : Path) (room : Option Nat) : Prop
  | tooLong (h : w.locate path = .error .nameTooLong)
  | undecodable {bytes : ByteArray} (hext : path.extension = ".json")
      (hread : w.read path = .ok bytes) (h : Text.decode? bytes = none)
  | hugeInteger {bytes : ByteArray} {source : List Char} {digits : Nat}
      (hext : path.extension = ".json") (hread : w.read path = .ok bytes)
      (hdecode : Options.decode? bytes = some source)
      (h : Json.read source room = .error (.hugeInteger digits))
  | tooNested {bytes : ByteArray} {source : List Char} {kind : String}
      (hext : path.extension = ".json") (hread : w.read path = .ok bytes)
      (hdecode : Options.decode? bytes = some source)
      (h : Json.read source room = .error (.tooDeep kind))

namespace Options

variable {w : World} {path : Path} {room : Option Nat}

theorem decode?_eq_none_iff {bytes : ByteArray} :
    decode? bytes = none ↔ Text.decode? bytes = none := by
  simp [decode?]

theorem fails_readLayer_of_read {bytes : ByteArray} (hext : path.extension = ".json")
    (hread : w.read path = .ok bytes) :
    Fails OptionsFault.isUntold (readLayer w path room) ↔
      Text.decode? bytes = none ∨ ∃ source, decode? bytes = some source ∧
        ((∃ digits, Json.read source room = .error (.hugeInteger digits)) ∨
          ∃ kind, Json.read source room = .error (.tooDeep kind)) := by
  rw [readLayer_of_read hext hread, ← decode?_eq_none_iff]
  cases decode? bytes with
  | none => simp [OptionsFault.isUntold]
  | some source =>
    cases hjson : Json.read source room with
    | ok v => cases v <;> simp [hjson, OptionsFault.isUntold]
    | error fault => cases fault <;> simp [hjson, OptionsFault.isUntold]

/-- A file that cannot be read is told, or its name is too long. -/
theorem fails_readLayer_of_unread
    (h : ¬ (path.extension = ".json" ∧ ∃ bytes, w.read path = .ok bytes)) :
    Fails OptionsFault.isUntold (readLayer w path room) ↔
      w.locate path = .error .nameTooLong := by
  cases hexists : w.existsAt path with
  | error fault =>
    have hlong := (World.holdsAt_eq_error_iff.1 hexists).2
    refine iff_of_true ⟨.inaccessible path fault, ?_, rfl⟩ hlong
    simp only [readLayer, hexists]
    rfl
  | ok found =>
    have hplace : w.locate path ≠ .error .nameTooLong := fun hlong => by
      have refused : w.existsAt path = .error .nameTooLong :=
        World.holdsAt_eq_error_iff.2 ⟨rfl, hlong⟩
      rw [hexists] at refused
      cases refused
    refine iff_of_false ?_ hplace
    cases found with
    | false =>
      refine not_fails_of_error (e := .missing path) ?_ rfl
      simp only [readLayer, hexists]
      rfl
    | true =>
      by_cases hext : path.extension = ".json"
      · cases hread : w.read path with
        | ok bytes => exact absurd ⟨hext, bytes, hread⟩ h
        | error fault =>
          refine not_fails_of_error (e := .unreadable path fault) ?_ rfl
          simp only [readLayer, hexists, hext, hread, if_true]
          rfl
      · refine not_fails_of_error (e := .notJson path) ?_ rfl
        simp only [readLayer, hexists, hext, if_false]
        rfl

theorem fails_readLayer_iff :
    Fails OptionsFault.isUntold (readLayer w path room) ↔ w.UntoldOptions path room := by
  by_cases h : path.extension = ".json" ∧ ∃ bytes, w.read path = .ok bytes
  · obtain ⟨hext, bytes, hread⟩ := h
    rw [fails_readLayer_of_read hext hread]
    constructor
    · rintro (h | ⟨source, hdecode, ⟨digits, h⟩ | ⟨kind, h⟩⟩)
      · exact .undecodable hext hread h
      · exact .hugeInteger hext hread hdecode h
      · exact .tooNested hext hread hdecode h
    · rintro (hlong | ⟨-, hother, h⟩ | ⟨-, hother, hdecode, h⟩ | ⟨-, hother, hdecode, h⟩)
      · rw [World.read, hlong] at hread
        cases hread
      · cases hread.symm.trans hother
        exact .inl h
      · cases hread.symm.trans hother
        exact .inr ⟨_, hdecode, .inl ⟨_, h⟩⟩
      · cases hread.symm.trans hother
        exact .inr ⟨_, hdecode, .inr ⟨_, h⟩⟩
  · rw [fails_readLayer_of_unread h]
    constructor
    · exact .tooLong
    · rintro (hlong | ⟨hext, hread, -⟩ | ⟨hext, hread, -, -⟩ | ⟨hext, hread, -, -⟩)
      · exact hlong
      · exact absurd ⟨hext, _, hread⟩ h
      · exact absurd ⟨hext, _, hread⟩ h
      · exact absurd ⟨hext, _, hread⟩ h

/-- Loading the options fails without a message where something is wrong with their file that is not
told. -/
theorem fails_load_iff {defaults overrides : Layer} {file : Option String}
    (hdefaults : ∀ e ∈ defaults, e.2.writeFault? room = none)
    (hoverrides : ∀ e ∈ overrides, e.2.writeFault? room = none) :
    Fails OptionsFault.isUntold (load w defaults overrides file room) ↔
      ∃ name, file.filter (!·.isEmpty) = some name ∧
        w.UntoldOptions (Path.ofText name) room := by
  have layers {fromFile : Layer} (hfrom : ∀ e ∈ fromFile, e.2.writeFault? room = none) :
      ¬ Fails OptionsFault.isUntold
        ((ofLayers [defaults, fromFile, overrides] room).mapError .option) := by
    have written : ∀ e ∈ merge [defaults, fromFile, overrides], e.2.writeFault? room = none := by
      intro e he
      rcases Entries.mem_of_mem_update he with he | he
      · exact (Entries.mem_of_mem_update he).elim (hdefaults e) (hfrom e)
      · exact hoverrides e he
    rw [fails_mapError]
    rintro ⟨f, hfault, huntold⟩
    exact Bool.false_ne_true ((told_of_written written hfault).symm.trans huntold)
  unfold load
  rw [fails_bind]
  cases file.filter (!·.isEmpty) with
  | none =>
    have hnone := layers fun e (he : e ∈ ([] : Layer)) => absurd he List.not_mem_nil
    refine iff_of_false ?_ (by simp)
    rintro (h | ⟨fromFile, hread, h⟩)
    · exact not_fails_ok _ h
    · cases hread
      exact hnone h
  | some name =>
    dsimp only
    rw [fails_readLayer_iff, or_iff_left]
    · simp
    · rintro ⟨fromFile, hread, h⟩
      obtain ⟨_, _, -, -, hjson⟩ := (holdsOptions_of_readLayer hread).read
      exact layers (Json.writeFault?_of_read_object hjson) h

end Options

end SdlPhp
