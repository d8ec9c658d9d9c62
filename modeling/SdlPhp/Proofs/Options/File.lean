import Mathlib.Data.List.TakeDrop
import SdlPhp.Proofs.Json.ReadBack
import SdlPhp.Proofs.Options.Fields
import SdlPhp.Proofs.World.Files

/-!
# Files with options

What a file with an object gives when options are loaded, and what a file holds after sound options
were saved to it. Main statements: `load_of_holdsOptions` and `exists_save`.
-/

namespace SdlPhp

open Attempt

/-- A file with an object of options, which reads as these fields. Nothing in it is nested too deeply
for the room. -/
structure World.HoldsOptions (w : World) (name : String) (fields : Layer)
    (room : Option Nat := none) : Prop where
  isJson : (Path.ofText name).extension = ".json"
  read : ∃ bytes source, w.read (Path.ofText name) = .ok bytes ∧
    Options.decode? bytes = some source ∧ Json.read source room = .ok (.object fields)

/-- The path leads to a place for a file. -/
def World.Writable (w : World) (path : Path) : Prop :=
  ∃ place, w.locate path = .ok place ∧ w.isDirectoryAt place = false

namespace Options

variable {w : World} {name : String} {fields : Layer} {room : Option Nat}

/-! ## Loading -/

/-- What is read of a JSON file is what its bytes say. -/
theorem readLayer_of_read {path : Path} {bytes : ByteArray} (hext : path.extension = ".json")
    (hread : w.read path = .ok bytes) :
    readLayer w path room =
      match decode? bytes with
      | none => .error .undecodable
      | some source =>
        match Json.read source room with
        | .error fault => .error (.invalidJson path source fault)
        | .ok (.object fields) => .ok fields
        | .ok _ => .error (.notObject path) := by
  simp only [readLayer, World.existsAt_of_read hread, hext, hread, Except.mapError, bind,
    Except.bind, if_true]
  rfl

theorem readLayer_of_holdsOptions (h : w.HoldsOptions name fields room) :
    readLayer w (Path.ofText name) room = .ok fields := by
  obtain ⟨bytes, source, hread, hdecode, hjson⟩ := h.read
  simp only [readLayer_of_read h.isJson hread, hdecode, hjson]

theorem filter_of_extension (hext : (Path.ofText name).extension = ".json") :
    (some name).filter (!·.isEmpty) = some name := by
  rw [Option.filter_some, if_pos]
  rw [Bool.not_eq_true', ← Bool.not_eq_true, String.isEmpty_iff]
  rintro rfl
  exact absurd hext (by decide)

theorem load_of_holdsOptions (h : w.HoldsOptions name fields room) (defaults overrides : Layer) :
    load w defaults overrides (some name) room =
      (ofLayers [defaults, fields, overrides] room).mapError .option := by
  simp only [load, filter_of_extension h.isJson, readLayer_of_holdsOptions h, bind, Except.bind]

/-- A layer is read from a file only if that holds an object. -/
theorem holdsOptions_of_readLayer (h : readLayer w (Path.ofText name) room = .ok fields) :
    w.HoldsOptions name fields room := by
  unfold readLayer at h
  obtain ⟨found, -, h⟩ := bind_eq_ok.1 h
  cases found with
  | false => cases h
  | true =>
    dsimp only at h
    rw [if_pos rfl] at h
    split at h
    · rename_i hext
      obtain ⟨bytes, hread, h⟩ := bind_eq_ok.1 h
      refine ⟨hext, bytes, ?_⟩
      split at h
      · cases h
      · rename_i source hdecode
        split at h
        · cases h
        · rename_i found hjson
          cases h
          exact ⟨source, mapError_eq_ok.1 hread, hdecode, hjson⟩
        · cases h
    · cases h

theorem readLayer_eq_ok_iff :
    readLayer w (Path.ofText name) room = .ok fields ↔ w.HoldsOptions name fields room :=
  ⟨holdsOptions_of_readLayer, readLayer_of_holdsOptions⟩

/-- What is read of the file of options: nothing if none is named, else the object in it. -/
def FileGives (w : World) (file : Option String) (fields : Layer) (room : Option Nat := none) :
    Prop :=
  match file.filter (!·.isEmpty) with
  | none => fields = []
  | some name => w.HoldsOptions name fields room

theorem FileGives.nodup {file : Option String} (h : FileGives w file fields room) :
    (Entries.keys fields).Nodup := by
  rw [FileGives] at h
  split at h
  · rw [h]
    exact List.nodup_nil
  · obtain ⟨_, source, -, -, hjson⟩ := h.read
    exact Json.nodup_keys_of_read hjson

theorem FileGives.load {file : Option String} (h : FileGives w file fields room)
    (defaults overrides : Layer) :
    load w defaults overrides file room =
      (ofLayers [defaults, fields, overrides] room).mapError .option := by
  cases hname : file.filter (!·.isEmpty) with
  | none =>
    simp only [FileGives, hname] at h
    simp only [Options.load, hname, h]
    rfl
  | some name =>
    simp only [FileGives, hname] at h
    simp only [Options.load, hname, readLayer_of_holdsOptions h]
    rfl

/-! ## Saving -/

/-- The text in which a sound value is written lasts, with no piece left out. -/
theorem span_pieces {v : Json} (h : v.Sound) :
    (Json.pieces 0 v).span (!Text.hasHalf ·.toList) = (Json.pieces 0 v, []) := by
  have whole : ∀ p ∈ Json.pieces 0 v, (!Text.hasHalf p.toList) = true :=
    fun p hp => by rw [(h.lasting_pieces 0 p hp).whole.hasHalf, Bool.not_false]
  rw [List.span_eq_takeWhile_dropWhile, List.takeWhile_eq_self_iff.2 whole,
    List.dropWhile_eq_nil_iff.2 whole]

theorem exists_decode?_write {v : Json} (h : v.Sound) :
    ∃ bytes, Text.encode? v.write = some bytes ∧ decode? bytes = some v.write.toList := by
  have lasting : Text.Lasting v.write.toList := by
    rw [Json.write, String.toList_join]
    exact Text.Lasting.flatMap (h.lasting_pieces 0)
  obtain ⟨bytes, hencode, hdecode⟩ := lasting.whole.exists_encode?
  refine ⟨bytes, hencode, ?_⟩
  rw [decode?, hdecode, Option.map_some, Text.unifyLineEnds_of_not_mem lasting.noReturn]

/-- Options whose saved fields are sound are saved as these fields. -/
theorem exists_save {o : Options} (hfields : o.flatFields = .ok fields)
    (hsound : (Json.object fields).Sound)
    (hjson : (Path.ofText name).extension = ".json") (hplace : w.Writable (Path.ofText name)) :
    ∃ w', save w o name = (w', none) ∧ w'.HoldsOptions name fields := by
  obtain ⟨place, hlocate, hdir⟩ := hplace
  obtain ⟨bytes, hencode, hdecode⟩ := exists_decode?_write hsound
  have hwrite : w.write (Path.ofText name) bytes = .ok (w.withFile place bytes) :=
    World.write_eq_ok.2 ⟨place, hlocate, hdir, rfl⟩
  refine ⟨w.withFile place bytes, ?_, hjson, bytes, _, (World.saves_of_write hwrite).read,
    hdecode, Json.read_write hsound⟩
  rw [Json.write] at hencode
  simp only [save, hfields, span_pieces hsound, hencode, Option.getD_some, hwrite,
    List.isEmpty_nil, if_true]

end Options

end SdlPhp
