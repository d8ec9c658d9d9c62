import SdlPhp.Proofs.Entries
import SdlPhp.Proofs.Json.ReadBack

/-!
# Room for nesting

With little room a text is read as it is without a limit, or there is no room for it (`limits_read`).
What has been read in some room can be written in it (`writeFault?_of_read`), and so can sound values
where nothing is nested too deeply (`Sound.writeFault?_eq_none`).
-/

namespace SdlPhp.Json

open Attempt

/-! ## Reading -/

section Reading

variable {α β : Type}

/-- The outcome is the same as without a limit, or there is no room. -/
def Limits (limited full : Except Fault α) : Prop :=
  limited = full ∨ ∃ kind, limited = .error (.tooDeep kind)

theorem limits_self (x : Except Fault α) : Limits x x := .inl rfl

theorem Limits.bind {x y : Except Fault α} {f g : α → Except Fault β} (h : Limits x y)
    (hf : ∀ a, Limits (f a) (g a)) : Limits (x >>= f) (y >>= g) := by
  rcases h with rfl | ⟨kind, rfl⟩
  · cases x with
    | ok a => exact hf a
    | error fault => exact limits_self _
  · exact .inr ⟨kind, rfl⟩

/-- What is read behind the start of a list or an object is limited if it is in all room there. -/
theorem limits_enter {kind : String} {room : Option Nat} {f : Option Nat → Except Fault β}
    (hf : ∀ room, Limits (f room) (f none)) :
    Limits (enter kind room >>= f) (enter kind none >>= f) := by
  rw [enter]
  cases enter? room with
  | none => exact .inr ⟨kind, rfl⟩
  | some inner => exact hf inner

end Reading

theorem eq_some_of_enter {kind : String} {room inner : Option Nat}
    (h : enter kind room = .ok inner) : enter? room = some inner := by
  rw [enter] at h
  split at h
  · cases h
    assumption
  · cases h

/-- All three readers are limited, given so much fuel. -/
structure LimitsAt (fuel : Nat) : Prop where
  value : ∀ room cs, Limits (readValue room fuel cs) (readValue none fuel cs)
  items : ∀ room cs, Limits (readItems room fuel cs) (readItems none fuel cs)
  fields : ∀ room cs, Limits (readFields room fuel cs) (readFields none fuel cs)

section Step

variable {fuel : Nat} (h : LimitsAt fuel) (room : Option Nat) (cs : List Char)
include h

theorem limits_readValue_succ :
    Limits (readValue room (fuel + 1) cs) (readValue none (fuel + 1) cs) := by
  cases cs with
  | nil => exact limits_self _
  | cons c cs =>
    by_cases hc : isAtomStart c = true
    · rw [readValue_of_isAtomStart hc, readValue_of_isAtomStart hc]
      exact limits_self _
    · simp only [isAtomStart, Bool.and_eq_true, bne_iff_ne, ne_eq, not_and_or,
        Decidable.not_not] at hc
      rcases hc with (rfl | rfl) | rfl
      · rw [readValue, readValue]
        exact limits_self _
      · rw [readValue, readValue]
        refine limits_enter fun inner => ?_
        split
        · exact limits_self _
        · exact (h.items inner _).bind fun _ => limits_self _
      · rw [readValue, readValue]
        refine limits_enter fun inner => ?_
        split
        · exact limits_self _
        · exact (h.fields inner _).bind fun _ => limits_self _

theorem limits_readItems_succ :
    Limits (readItems room (fuel + 1) cs) (readItems none (fuel + 1) cs) := by
  rw [readItems, readItems]
  refine (h.value room cs).bind ?_
  rintro ⟨v, rest⟩
  dsimp only
  split
  · exact limits_self _
  · exact (h.items room _).bind fun _ => limits_self _
  · exact limits_self _

theorem limits_readFields_succ :
    Limits (readFields room (fuel + 1) cs) (readFields none (fuel + 1) cs) := by
  unfold readFields
  split
  · refine (limits_self _).bind ?_
    rintro ⟨k, rest⟩
    dsimp only
    split
    · refine (h.value room _).bind ?_
      rintro ⟨v, rest⟩
      dsimp only
      split
      · exact limits_self _
      · exact (h.fields room _).bind fun _ => limits_self _
      · exact limits_self _
    · exact limits_self _
  · exact limits_self _

end Step

theorem limitsAt (fuel : Nat) : LimitsAt fuel := by
  induction fuel with
  | zero => exact ⟨fun _ _ => limits_self _, fun _ _ => limits_self _, fun _ _ => limits_self _⟩
  | succ fuel ih =>
    exact ⟨limits_readValue_succ ih, limits_readItems_succ ih, limits_readFields_succ ih⟩

/-- A text is read as it is without a limit, or there is no room for it. -/
theorem limits_read (cs : List Char) (room : Option Nat) : Limits (read cs room) (read cs) := by
  unfold read
  split
  · exact limits_self _
  · exact ((limitsAt _).value room _).bind fun _ => limits_self _

theorem read_of_read {cs : List Char} {room : Option Nat} {v : Json} (h : read cs room = .ok v) :
    read cs = .ok v := by
  rcases limits_read cs room with heq | ⟨kind, hdeep⟩
  · exact heq.symm.trans h
  · cases hdeep.symm.trans h

/-! ## Writing -/

theorem itemsWriteFault?_eq_none_iff {room : Option Nat} {items : List Json} :
    itemsWriteFault? room items = none ↔ ∀ v ∈ items, v.writeFault? room = none := by
  induction items with
  | nil => simp [itemsWriteFault?]
  | cons v items ih => rw [itemsWriteFault?, Option.or_eq_none_iff, ih, List.forall_mem_cons]

theorem fieldsWriteFault?_eq_none_iff {room : Option Nat} {fields : List (String × Json)} :
    fieldsWriteFault? room fields = none ↔ ∀ f ∈ fields, f.2.writeFault? room = none := by
  induction fields with
  | nil => simp [fieldsWriteFault?]
  | cons f fields ih =>
    rw [fieldsWriteFault?, Option.or_eq_none_iff, ih, List.forall_mem_cons]

theorem digitsValue_lt {ds : List Char} (h : ∀ d ∈ ds, d.isDigit = true) :
    digitsValue ds < 10 ^ ds.length := by
  induction ds with
  | nil => decide
  | cons d ds ih =>
    rw [List.forall_mem_cons] at h
    have hd : d.toNat - 48 < 10 := by
      have := h.1
      rw [Char.isDigit, Bool.and_eq_true, decide_eq_true_iff, decide_eq_true_iff] at this
      have upper : d.toNat ≤ 57 := this.2
      omega
    have rest := ih h.2
    rw [digitsValue, List.foldl_cons, foldl_digits, List.length_cons, Nat.pow_succ, Nat.zero_mul,
      Nat.zero_add]
    calc (d.toNat - 48) * 10 ^ ds.length + digitsValue ds
        < (d.toNat - 48) * 10 ^ ds.length + 10 ^ ds.length := by omega
      _ = (d.toNat - 48 + 1) * 10 ^ ds.length := by ring
      _ ≤ 10 * 10 ^ ds.length := Nat.mul_le_mul_right _ hd
      _ = 10 ^ ds.length * 10 := Nat.mul_comm _ _

theorem writeFault?_int {n : Int} (h : n.natAbs < 10 ^ Number.maxDigits) (room : Option Nat) :
    (int n).writeFault? room = none := by
  have writable : Number.isWritable n = true := by
    rw [Number.isWritable_iff]
    generalize Number.maxDigits = digits at h ⊢
    exact h
  rw [writeFault?, if_pos writable]

theorem Sound.writeFault?_eq_none {v : Json} (h : v.Sound) : v.writeFault? none = none := by
  induction h with
  | @int n h =>
    refine writeFault?_int ?_ none
    calc n.natAbs = digitsValue (Nat.toDigits 10 n.natAbs) := (digitsValue_toDigits _).symm
      _ < 10 ^ (Nat.toDigits 10 n.natAbs).length := digitsValue_lt isDigit_of_mem_toDigits
      _ ≤ 10 ^ Number.maxDigits := Nat.pow_le_pow_right (by decide) h
  | list h ih => exact itemsWriteFault?_eq_none_iff.2 ih
  | object nodup whole h ih => exact fieldsWriteFault?_eq_none_iff.2 ih
  | _ => rfl

mutual

/-- What can be written inside of a list or an object can be written outside of it. -/
theorem writeFault?_of_enter? {room inner : Option Nat} (h : enter? room = some inner) :
    ∀ {v : Json}, v.writeFault? inner = none → v.writeFault? room = none
  | .list items, hv => by
    rw [writeFault?] at hv
    split at hv
    · rename_i deeper hdeeper
      rw [writeFault?, h]
      exact itemsWriteFault?_of_enter? hdeeper hv
    · cases hv
  | .object fields, hv => by
    rw [writeFault?] at hv
    split at hv
    · rename_i deeper hdeeper
      rw [writeFault?, h]
      exact fieldsWriteFault?_of_enter? hdeeper hv
    · cases hv
  | .int _, hv => hv
  | .null, _ | .bool _, _ | .float _, _ | .text _, _ => rfl

theorem itemsWriteFault?_of_enter? {room inner : Option Nat} (h : enter? room = some inner) :
    ∀ {items : List Json}, itemsWriteFault? inner items = none → itemsWriteFault? room items = none
  | [], _ => rfl
  | v :: items, hvs => by
    rw [itemsWriteFault?, Option.or_eq_none_iff] at hvs ⊢
    exact ⟨writeFault?_of_enter? h hvs.1, itemsWriteFault?_of_enter? h hvs.2⟩

theorem fieldsWriteFault?_of_enter? {room inner : Option Nat} (h : enter? room = some inner) :
    ∀ {fields : List (String × Json)},
      fieldsWriteFault? inner fields = none → fieldsWriteFault? room fields = none
  | [], _ => rfl
  | (_, v) :: fields, hfs => by
    rw [fieldsWriteFault?, Option.or_eq_none_iff] at hfs ⊢
    exact ⟨writeFault?_of_enter? h hfs.1, fieldsWriteFault?_of_enter? h hfs.2⟩

end

/-! ## Writing what has been read -/

theorem isDigit_of_splitWhole {cs whole rest : List Char}
    (h : splitWhole cs = some (whole, rest)) : ∀ d ∈ whole, d.isDigit = true := by
  unfold splitWhole at h
  split at h
  · cases h
    exact List.forall_mem_singleton.2 rfl
  · split at h
    · cases h
      exact fun d hd => List.mem_takeWhile_imp hd
    · cases h
  · cases h

theorem writeFault?_of_readNumber {cs rest : List Char} {v : Json}
    (h : readNumber cs = .ok (v, rest)) (room : Option Nat) : v.writeFault? room = none := by
  unfold readNumber at h
  dsimp only at h
  split at h
  · cases h
  · rename_i whole _ hwhole
    split at h
    · split at h
      · cases h
      · rename_i hdigits
        have value : digitsValue whole < 10 ^ Number.maxDigits :=
          (digitsValue_lt (isDigit_of_splitWhole hwhole)).trans_le
            (Nat.pow_le_pow_right (by decide) (Nat.not_lt.1 hdigits))
        have magnitude (negative : Bool) :
            (if negative = true then -(digitsValue whole : Int) else digitsValue whole).natAbs =
              digitsValue whole := by
          cases negative <;> simp
        cases h
        refine writeFault?_int ?_ room
        rwa [magnitude]
    · cases h
      rfl

theorem writeFault?_of_readAtom {cs rest : List Char} {v : Json}
    (h : readAtom cs = .ok (v, rest)) (room : Option Nat) : v.writeFault? room = none := by
  rw [readAtom] at h
  split at h
  · rename_i found hfound
    cases h
    obtain ⟨⟨word, v⟩, hmem, hword⟩ := List.exists_of_findSome?_eq_some hfound
    obtain ⟨_, -, ⟨⟩⟩ := Option.map_eq_some_iff.1 hword
    simp only [keywords, List.mem_cons, Prod.mk.injEq, List.not_mem_nil, or_false] at hmem
    rcases hmem with ⟨-, rfl⟩ | ⟨-, rfl⟩ | ⟨-, rfl⟩ | ⟨-, rfl⟩ | ⟨-, rfl⟩ | ⟨-, rfl⟩ <;> rfl
  · exact writeFault?_of_readNumber h room

/-- What the three readers give can be written, given so much fuel. -/
structure WritableAt (fuel : Nat) : Prop where
  value : ∀ room cs v rest, readValue room fuel cs = .ok (v, rest) → v.writeFault? room = none
  items : ∀ room cs vs rest, readItems room fuel cs = .ok (vs, rest) →
    ∀ v ∈ vs, v.writeFault? room = none
  fields : ∀ room cs fs rest, readFields room fuel cs = .ok (fs, rest) →
    ∀ f ∈ fs, f.2.writeFault? room = none

section Step

variable {fuel : Nat} (h : WritableAt fuel) {room : Option Nat} {cs rest : List Char}
include h

theorem writeFault?_of_readValue_succ {v : Json}
    (hread : readValue room (fuel + 1) cs = .ok (v, rest)) : v.writeFault? room = none := by
  unfold readValue at hread
  split at hread
  · obtain ⟨_, -, hread⟩ := bind_eq_ok.1 hread
    cases hread
    rfl
  · obtain ⟨inner, hinner, hread⟩ := bind_eq_ok.1 hread
    have henter := eq_some_of_enter hinner
    split at hread
    · cases hread
      rw [writeFault?, henter]
      rfl
    · obtain ⟨⟨vs, _⟩, hvs, hread⟩ := bind_eq_ok.1 hread
      cases hread
      rw [writeFault?, henter]
      exact itemsWriteFault?_eq_none_iff.2 (h.items _ _ _ _ hvs)
  · obtain ⟨inner, hinner, hread⟩ := bind_eq_ok.1 hread
    have henter := eq_some_of_enter hinner
    split at hread
    · cases hread
      rw [writeFault?, henter]
      rfl
    · obtain ⟨⟨fs, _⟩, hfs, hread⟩ := bind_eq_ok.1 hread
      cases hread
      rw [writeFault?, henter]
      refine fieldsWriteFault?_eq_none_iff.2 fun f hf => ?_
      exact (Entries.mem_of_mem_update hf).elim (fun hnil => absurd hnil List.not_mem_nil)
        (h.fields _ _ _ _ hfs f)
  · exact writeFault?_of_readAtom hread room

theorem writeFault?_of_readItems_succ {vs : List Json}
    (hread : readItems room (fuel + 1) cs = .ok (vs, rest)) :
    ∀ v ∈ vs, v.writeFault? room = none := by
  rw [readItems] at hread
  obtain ⟨⟨v, _⟩, hv, hread⟩ := bind_eq_ok.1 hread
  have first := h.value _ _ _ _ hv
  dsimp only at hread
  split at hread
  · cases hread
    exact List.forall_mem_singleton.2 first
  · obtain ⟨⟨vs, _⟩, hvs, hread⟩ := bind_eq_ok.1 hread
    cases hread
    exact List.forall_mem_cons.2 ⟨first, h.items _ _ _ _ hvs⟩
  · cases hread

theorem writeFault?_of_readFields_succ {fs : List (String × Json)}
    (hread : readFields room (fuel + 1) cs = .ok (fs, rest)) :
    ∀ f ∈ fs, f.2.writeFault? room = none := by
  unfold readFields at hread
  split at hread
  · obtain ⟨⟨k, _⟩, -, hread⟩ := bind_eq_ok.1 hread
    dsimp only at hread
    split at hread
    · obtain ⟨⟨v, _⟩, hv, hread⟩ := bind_eq_ok.1 hread
      have first := h.value _ _ _ _ hv
      dsimp only at hread
      split at hread
      · cases hread
        exact List.forall_mem_singleton.2 first
      · obtain ⟨⟨fs, _⟩, hfs, hread⟩ := bind_eq_ok.1 hread
        cases hread
        exact List.forall_mem_cons.2 ⟨first, h.fields _ _ _ _ hfs⟩
      · cases hread
    · cases hread
  · cases hread

end Step

theorem writableAt (fuel : Nat) : WritableAt fuel := by
  induction fuel with
  | zero => exact ⟨nofun, nofun, nofun⟩
  | succ fuel ih =>
    exact ⟨fun _ _ _ _ => writeFault?_of_readValue_succ ih,
      fun _ _ _ _ => writeFault?_of_readItems_succ ih,
      fun _ _ _ _ => writeFault?_of_readFields_succ ih⟩

/-- What has been read in some room can be written in it. -/
theorem writeFault?_of_read {cs : List Char} {room : Option Nat} {v : Json}
    (h : read cs room = .ok v) : v.writeFault? room = none := by
  unfold read at h
  split at h
  · cases h
  · obtain ⟨⟨v, rest⟩, hv, h⟩ := bind_eq_ok.1 h
    dsimp only at h
    split at h
    · cases h
      exact (writableAt _).value _ _ _ _ hv
    · cases h

/-- The fields of an object that has been read can be written as well. -/
theorem writeFault?_of_read_object {cs : List Char} {room : Option Nat}
    {fields : List (String × Json)} (h : read cs room = .ok (.object fields)) :
    ∀ f ∈ fields, f.2.writeFault? room = none := by
  have whole := writeFault?_of_read h
  rw [writeFault?] at whole
  split at whole
  · rename_i inner henter
    exact fun f hf => writeFault?_of_enter? henter (fieldsWriteFault?_eq_none_iff.1 whole f hf)
  · cases whole

end SdlPhp.Json
