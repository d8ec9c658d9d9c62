import SdlPhp.Proofs.Json.Room
import SdlPhp.Proofs.Options.Precedence

/-!
# Options in some room

How deeply the values in a file of options may nest makes no difference to what is loaded of it: that
is the same as without a limit (`load_of_room`), or the file is nested too deeply and nothing is
loaded (`World.HoldsOptions.inRoom`, `World.TooNested.load`).
-/

namespace SdlPhp

open Attempt

variable {w : World} {name : String} {fields : Layer} {room other : Option Nat}

namespace World

/-- The file of options is nested too deeply for the room. -/
def TooNested (w : World) (name : String) (room : Option Nat) : Prop :=
  ∃ bytes source kind, w.read (Path.ofText name) = .ok bytes ∧
    Options.decode? bytes = some source ∧ Json.read source room = .error (.tooDeep kind)

theorem HoldsOptions.of_room (h : w.HoldsOptions name fields room) : w.HoldsOptions name fields := by
  obtain ⟨bytes, source, hread, hdecode, hjson⟩ := h.read
  exact ⟨h.isJson, bytes, source, hread, hdecode, Json.read_of_read hjson⟩

/-- A file of options has room unless it is nested too deeply. -/
theorem HoldsOptions.inRoom (h : w.HoldsOptions name fields) (hroom : ¬ w.TooNested name room) :
    w.HoldsOptions name fields room := by
  obtain ⟨bytes, source, hread, hdecode, hjson⟩ := h.read
  refine ⟨h.isJson, bytes, source, hread, hdecode, ?_⟩
  rcases Json.limits_read source room with heq | ⟨kind, hdeep⟩
  · exact heq.trans hjson
  · exact absurd ⟨bytes, source, kind, hread, hdecode, hdeep⟩ hroom

end World

namespace Options

variable {defaults overrides layer : Layer} {file : Option String} {o : Options}

/-! ## Layers -/

/-- Whether a layer is refused does not depend on the room, which counts for messages only. -/
theorem ofLayer_of_room (h : ofLayer layer room = .ok o) : ofLayer layer other = .ok o := by
  have fault := firstFault?_of_ofLayer h
  rw [ofLayer_eq fault] at h
  rw [ofLayer_eq (firstFault?_of_fitting (fitting_of_firstFault? fault)), h]

theorem firstFault?_eq_of_written (h : ∀ e ∈ layer, e.2.writeFault? room = none)
    (hother : ∀ e ∈ layer, e.2.writeFault? other = none) :
    firstFault? layer room = firstFault? layer other := by
  induction layer with
  | nil => rfl
  | cons e layer ih =>
    rw [List.forall_mem_cons] at h hother
    have first : entryFault? room e.1 e.2 = entryFault? other e.1 e.2 := by
      rw [entryFault?, entryFault?, h.1, hother.1]
    have later := ih h.2 hother.2
    rw [firstFault?_eq, firstFault?_eq] at later ⊢
    rw [List.findSome?_cons, List.findSome?_cons, first, later]

/-- Where all values can be written in either room, there is no difference between them. -/
theorem ofLayer_eq_of_written (h : ∀ e ∈ layer, e.2.writeFault? room = none)
    (hother : ∀ e ∈ layer, e.2.writeFault? other = none) :
    ofLayer layer room = ofLayer layer other := by
  rw [ofLayer, ofLayer, firstFault?_eq_of_written h hother]

/-- Where all values can be written, the fault of one is told. -/
theorem told_of_written (h : ∀ e ∈ layer, e.2.writeFault? room = none) {f : OptionFault}
    (hf : ofLayer layer room = .error f) : f.isUntold = false := by
  obtain ⟨e, he, hfault⟩ := List.exists_of_findSome?_eq_some (ofLayer_eq_error_iff.1 hf)
  obtain ⟨-, -, -, -, hunwritten⟩ := entryFault?_eq_some_iff.1 hfault
  rw [OptionFault.isUntold, hunwritten, h e he]
  rfl

theorem writeFault?_defaultLayer (room : Option Nat) :
    ∀ e ∈ defaultLayer, e.2.writeFault? room = none := by
  have small : Number.isWritable 4 = true := by
    have some_digits : 1 ≤ Number.maxDigits := by decide
    rw [Number.isWritable_iff]
    generalize Number.maxDigits = digits at some_digits
    exact Nat.lt_of_lt_of_le (by decide : 4 < 10 ^ 1) (Nat.pow_le_pow_right (by decide) some_digits)
  simp only [defaultLayer, List.forall_mem_cons, Json.writeFault?, small, if_true]
  simp

/-- What has been read of a file can be written, also over the defaults. -/
theorem writeFault?_of_holdsOptions (h : w.HoldsOptions name fields room) :
    ∀ e ∈ merge [defaultLayer, fields], e.2.writeFault? room = none := by
  obtain ⟨_, _, -, -, hjson⟩ := h.read
  intro e he
  exact (Entries.mem_of_mem_update he).elim (writeFault?_defaultLayer room e)
    (Json.writeFault?_of_read_object hjson e)

/-- A file over the defaults is refused or taken alike in the room in which it was read and without a
limit. -/
theorem ofLayers_of_holdsOptions (h : w.HoldsOptions name fields room) :
    ofLayers [defaultLayer, fields] room = ofLayers [defaultLayer, fields] :=
  ofLayer_eq_of_written (writeFault?_of_holdsOptions h) (writeFault?_of_holdsOptions h.of_room)

/-! ## Files -/

/-- What is loaded in some room is what is loaded without a limit. -/
theorem load_of_room (h : load w defaults overrides file room = .ok o) :
    load w defaults overrides file = .ok o := by
  unfold load at h ⊢
  obtain ⟨fromFile, hread, h⟩ := bind_eq_ok.1 h
  refine bind_eq_ok.2 ⟨fromFile, ?_, mapError_eq_ok.2 (ofLayer_of_room (mapError_eq_ok.1 h))⟩
  cases hname : file.filter (!·.isEmpty) with
  | none =>
    rw [hname] at hread
    exact hread
  | some name =>
    rw [hname] at hread
    exact readLayer_of_holdsOptions (holdsOptions_of_readLayer hread).of_room

end Options

/-- Nothing is loaded of a file that is nested too deeply. -/
theorem World.TooNested.load (h : w.TooNested name room)
    (hext : (Path.ofText name).extension = ".json") (defaults overrides : Layer) :
    ∃ source kind, Options.load w defaults overrides (some name) room =
      .error (.invalidJson (Path.ofText name) source (.tooDeep kind)) := by
  obtain ⟨bytes, source, kind, hread, hdecode, hjson⟩ := h
  refine ⟨source, kind, ?_⟩
  have layer : Options.readLayer w (Path.ofText name) room =
      .error (.invalidJson (Path.ofText name) source (.tooDeep kind)) := by
    simp only [Options.readLayer_of_read hext hread, hdecode, hjson]
  simp only [Options.load, Options.filter_of_extension hext, layer, bind, Except.bind]

end SdlPhp
