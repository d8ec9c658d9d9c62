import SdlPhp.Proofs.Json.FloatText
import SdlPhp.Proofs.Json.Written

/-!
# Values read back

A sound value that is written on lines is read back from them. What is written of a list or an object
falls into what is written of its parts, line breaks and separators; the reader takes these in turn,
and its fuel suffices since each step leaves two characters or more behind. Main statement:
`read_write`.
-/

namespace SdlPhp.Json

open Attempt

/-! ## What is written -/

/-- The characters of a value on a level. -/
def writtenAt (level : Nat) (v : Json) : List Char := (pieces level v).flatMap String.toList

/-- The characters of items behind the first one. -/
def itemsBehind (level : Nat) (items : List Json) : List Char :=
  (itemPieces level (separator level) items).flatMap String.toList

/-- The characters of fields behind the first one. -/
def fieldsBehind (level : Nat) (fields : List (String × Json)) : List Char :=
  (fieldPieces level (separator level) fields).flatMap String.toList

section Written

variable (level : Nat) (before : String)

theorem flatMap_itemPieces (v : Json) (items : List Json) :
    (itemPieces level before (v :: items)).flatMap String.toList =
      before.toList ++ (writtenAt (level + 1) v ++ itemsBehind level items) := by
  cases v with
  | text s => simp [itemPieces, writtenAt, itemsBehind, pieces]
  | _ => simp [itemPieces, writtenAt, itemsBehind]

theorem flatMap_fieldPieces (key : String) (v : Json) (fields : List (String × Json)) :
    (fieldPieces level before ((key, v) :: fields)).flatMap String.toList =
      before.toList ++ ((writeText key).toList ++
        (':' :: ' ' :: (writtenAt (level + 1) v ++ fieldsBehind level fields))) := by
  simp [fieldPieces, writtenAt, fieldsBehind]

theorem writtenAt_list (v : Json) (items : List Json) :
    writtenAt level (list (v :: items)) = '[' :: ((lineBreak (level + 1)).toList ++
      (writtenAt (level + 1) v ++ (itemsBehind level items ++ ((lineBreak level).toList ++ [']'])))) := by
  rw [writtenAt, pieces, List.flatMap_append, flatMap_itemPieces]
  simp

theorem writtenAt_object (key : String) (v : Json) (fields : List (String × Json)) :
    writtenAt level (object ((key, v) :: fields)) = '{' :: ((lineBreak (level + 1)).toList ++
      ((writeText key).toList ++ (':' :: ' ' :: (writtenAt (level + 1) v ++
        (fieldsBehind level fields ++ ((lineBreak level).toList ++ ['}'])))))) := by
  rw [writtenAt, pieces, List.flatMap_append, flatMap_fieldPieces]
  simp

theorem itemsBehind_cons (v : Json) (items : List Json) :
    itemsBehind level (v :: items) = ',' :: ((lineBreak (level + 1)).toList ++
      (writtenAt (level + 1) v ++ itemsBehind level items)) := by
  rw [itemsBehind, flatMap_itemPieces, separator]
  simp

theorem fieldsBehind_cons (key : String) (v : Json) (fields : List (String × Json)) :
    fieldsBehind level ((key, v) :: fields) = ',' :: ((lineBreak (level + 1)).toList ++
      ((writeText key).toList ++
        (':' :: ' ' :: (writtenAt (level + 1) v ++ fieldsBehind level fields)))) := by
  rw [fieldsBehind, flatMap_fieldPieces, separator]
  simp

end Written

/-! ## Space -/

theorem skipSpace_lineBreak (level : Nat) (cs : List Char) :
    skipSpace ((lineBreak level).toList ++ cs) = skipSpace cs := by
  have space : ∀ c ∈ (lineBreak level).toList, isSpace c = true := by
    intro c hc
    rw [lineBreak, String.toList_append, List.mem_append] at hc
    rcases hc with hc | hc
    · rw [List.mem_singleton.1 hc]
      rfl
    · rw [String.toList_ofList] at hc
      rw [List.eq_of_mem_replicate hc]
      rfl
  exact List.dropWhile_append_of_pos space

theorem ends_lineBreak (level : Nat) (cs : List Char) : Ends ((lineBreak level).toList ++ cs) := by
  rw [lineBreak, String.toList_append]
  rintro c hc
  obtain rfl : '\n' = c := Option.some.inj hc
  decide

theorem ends_itemsBehind (level : Nat) (items : List Json) (cs : List Char) :
    Ends (itemsBehind level items ++ ((lineBreak level).toList ++ cs)) := by
  cases items with
  | nil => exact ends_lineBreak level cs
  | cons v items =>
    rw [itemsBehind_cons]
    rintro c hc
    obtain rfl : ',' = c := Option.some.inj hc
    decide

theorem ends_fieldsBehind (level : Nat) (fields : List (String × Json)) (cs : List Char) :
    Ends (fieldsBehind level fields ++ ((lineBreak level).toList ++ cs)) := by
  cases fields with
  | nil => exact ends_lineBreak level cs
  | cons f fields =>
    rw [fieldsBehind_cons]
    rintro c hc
    obtain rfl : ',' = c := Option.some.inj hc
    decide

/-- A character with which a value starts. -/
def isStart (c : Char) : Bool := !isSpace c && c != ']' && c != '}' && c != '\ufeff'

theorem skipSpace_of_isStart {c : Char} (h : isStart c = true) (cs : List Char) :
    skipSpace (c :: cs) = c :: cs := by
  simp only [isStart, Bool.and_eq_true, Bool.not_eq_true'] at h
  exact List.dropWhile_cons_of_neg (by simp [h.1.1.1])

theorem isStart_of_isNumeric {c : Char} (h : isNumeric c = true) : isStart c = true := by
  by_contra hstart
  simp only [isStart, isSpace, Bool.not_or, bne, Bool.and_eq_true, Bool.not_eq_true', not_and,
    beq_eq_false_iff_ne, ne_eq, Decidable.not_not] at hstart
  by_cases hspace : c = ' ' ∨ c = '\t' ∨ c = '\n' ∨ c = '\r' ∨ c = ']' ∨ c = '}'
  · rcases hspace with rfl | rfl | rfl | rfl | rfl | rfl <;> exact absurd h (by decide)
  · simp only [not_or] at hspace
    obtain ⟨h1, h2, h3, h4, h5, h6⟩ := hspace
    rw [hstart ⟨⟨⟨⟨⟨h1, h2⟩, h3⟩, h4⟩, h5⟩, h6⟩] at h
    exact absurd h (by decide)

theorem exists_of_numeric {cs : List Char} (hne : cs ≠ []) (h : ∀ c ∈ cs, isNumeric c = true) :
    ∃ c ds, cs = c :: ds ∧ isStart c = true := by
  obtain ⟨c, ds, rfl⟩ := List.exists_cons_of_ne_nil hne
  exact ⟨c, ds, rfl, isStart_of_isNumeric (h c List.mem_cons_self)⟩

theorem intText_ne_nil (n : Int) : (Number.intText n).toList ≠ [] := by
  cases n <;> simp [Number.intText, Number.natText]

theorem magnitudeText_ne_nil (l : FloatLayout) (m : Nat) (e : Int) : l.magnitudeText m e ≠ [] := by
  rw [FloatLayout.magnitudeText]
  split
  · exact List.cons_ne_nil _ _
  · dsimp only
    split
    · rw [FloatLayout.positional]
      split <;> simp
    · rw [FloatLayout.exponential]
      simp

theorem floatText_ne_nil (negative : Bool) (m : Nat) (e : Int) :
    (FloatLayout.json.text (.finite negative m e)).toList ≠ [] := by
  rw [FloatLayout.text, String.toList_ofList]
  exact List.append_ne_nil_of_right_ne_nil _ (magnitudeText_ne_nil _ m e)

theorem exists_floatText (x : Binary64) :
    ∃ c cs, (FloatLayout.json.text x).toList = c :: cs ∧ isStart c = true := by
  cases x with
  | nan => exact ⟨_, _, rfl, rfl⟩
  | infinite negative => cases negative <;> exact ⟨_, _, rfl, rfl⟩
  | finite negative m e =>
    exact exists_of_numeric (floatText_ne_nil negative m e) (isNumeric_of_mem_floatText negative m e)

theorem exists_writtenAt (level : Nat) (v : Json) :
    ∃ c cs, writtenAt level v = c :: cs ∧ isStart c = true := by
  have only {v : Json} {p : String} (hp : pieces level v = [p]) : writtenAt level v = p.toList := by
    rw [writtenAt, hp, List.flatMap_singleton]
  cases v with
  | null => exact ⟨_, _, rfl, rfl⟩
  | bool b => cases b <;> exact ⟨_, _, rfl, rfl⟩
  | int n =>
    rw [only rfl]
    exact exists_of_numeric (intText_ne_nil n) (isNumeric_of_mem_intText n)
  | float x => exact only (v := .float x) rfl ▸ exists_floatText x
  | text s => exact ⟨'"', _, by rw [only rfl, writeText, String.toList_ofList], rfl⟩
  | list items =>
    cases items with
    | nil => exact ⟨_, _, rfl, rfl⟩
    | cons v items => exact ⟨'[', _, writtenAt_list level v items, rfl⟩
  | object fields =>
    cases fields with
    | nil => exact ⟨_, _, rfl, rfl⟩
    | cons f fields => exact ⟨'{', _, writtenAt_object level f.1 f.2 fields, rfl⟩

/-! ## Reading -/

/-- The value is read from what is written of it, where fuel suffices and no more digits follow. -/
def ReadsBack (v : Json) : Prop :=
  ∀ level fuel rest, 2 * (writtenAt level v).length ≤ fuel → Ends rest →
    readValue none fuel (writtenAt level v ++ rest) = .ok (v, rest)

/-- Behind a line break or a blank the reader goes on with the value there. -/
theorem skipSpace_writtenAt (level : Nat) (v : Json) (rest : List Char) :
    skipSpace (writtenAt level v ++ rest) = writtenAt level v ++ rest := by
  obtain ⟨c, cs, hcs, hc⟩ := exists_writtenAt level v
  rw [hcs, List.cons_append, skipSpace_of_isStart hc]

theorem skipSpace_blank (cs : List Char) : skipSpace (' ' :: cs) = skipSpace cs := rfl

theorem exists_writeText (key : String) (rest : List Char) :
    ∃ cs, (writeText key).toList ++ rest = '"' :: cs := by
  rw [writeText, String.toList_ofList]
  exact ⟨_, rfl⟩

theorem skipSpace_writeText (key : String) (rest : List Char) :
    skipSpace ((writeText key).toList ++ rest) = (writeText key).toList ++ rest := by
  obtain ⟨cs, hcs⟩ := exists_writeText key rest
  rw [hcs, skipSpace_of_isStart rfl]

theorem readItems_written {v : Json} {items : List Json} (h : ∀ w ∈ v :: items, ReadsBack w)
    {level fuel : Nat}
    (hfuel : 2 * (writtenAt (level + 1) v ++ itemsBehind level items).length < fuel)
    (rest : List Char) :
    readItems none fuel (writtenAt (level + 1) v ++ (itemsBehind level items ++
      ((lineBreak level).toList ++ ']' :: rest))) = .ok (v :: items, rest) := by
  induction items generalizing v fuel with
  | nil =>
    obtain ⟨fuel, rfl⟩ := Nat.exists_eq_succ_of_ne_zero (Nat.ne_of_gt (Nat.zero_lt_of_lt hfuel))
    rw [List.length_append] at hfuel
    rw [readItems, h v List.mem_cons_self (level + 1) fuel _ (by omega)
      (ends_itemsBehind level [] (']' :: rest))]
    simp only [bind, Except.bind, itemsBehind, itemPieces, List.flatMap_nil, List.nil_append,
      skipSpace_lineBreak]
    rfl
  | cons w items ih =>
    obtain ⟨fuel, rfl⟩ := Nat.exists_eq_succ_of_ne_zero (Nat.ne_of_gt (Nat.zero_lt_of_lt hfuel))
    rw [List.forall_mem_cons] at h
    have fueled : 2 * (writtenAt (level + 1) w ++ itemsBehind level items).length < fuel := by
      simp only [itemsBehind_cons, List.length_append, List.length_cons] at hfuel ⊢
      omega
    have later := ih h.2 fueled
    rw [List.length_append] at hfuel
    rw [readItems, h.1 (level + 1) fuel _ (by omega)
      (ends_itemsBehind level (w :: items) (']' :: rest))]
    simp only [bind, Except.bind, itemsBehind_cons, List.cons_append, List.append_assoc,
      skipSpace_of_isStart (c := ',') rfl, skipSpace_lineBreak, skipSpace_writtenAt, later]
    rfl

theorem readFields_written {key : String} {v : Json} {fields : List (String × Json)}
    (h : ∀ f ∈ (key, v) :: fields, ReadsBack f.2) {level fuel : Nat}
    (hfuel : 2 * (writtenAt (level + 1) v ++ fieldsBehind level fields).length < fuel)
    (rest : List Char) :
    readFields none fuel ((writeText key).toList ++ (':' :: ' ' :: (writtenAt (level + 1) v ++
      (fieldsBehind level fields ++ ((lineBreak level).toList ++ '}' :: rest))))) =
        .ok ((key, v) :: fields, rest) := by
  induction fields generalizing key v fuel with
  | nil =>
    obtain ⟨fuel, rfl⟩ := Nat.exists_eq_succ_of_ne_zero (Nat.ne_of_gt (Nat.zero_lt_of_lt hfuel))
    rw [List.length_append] at hfuel
    have first := h _ List.mem_cons_self (level + 1) fuel _ (by dsimp only; omega)
      (ends_fieldsBehind level [] ('}' :: rest))
    obtain ⟨cs, hcs⟩ := exists_writeText key (':' :: ' ' :: (writtenAt (level + 1) v ++
      (fieldsBehind level [] ++ ((lineBreak level).toList ++ '}' :: rest))))
    rw [hcs, readFields, ← hcs, readText_writeText]
    simp only [bind, Except.bind, skipSpace_of_isStart (c := ':') rfl, skipSpace_blank,
      skipSpace_writtenAt, first]
    simp only [fieldsBehind, fieldPieces, List.flatMap_nil, List.nil_append, skipSpace_lineBreak]
    rfl
  | cons f fields ih =>
    obtain ⟨name, w⟩ := f
    obtain ⟨fuel, rfl⟩ := Nat.exists_eq_succ_of_ne_zero (Nat.ne_of_gt (Nat.zero_lt_of_lt hfuel))
    rw [List.forall_mem_cons] at h
    have fueled : 2 * (writtenAt (level + 1) w ++ fieldsBehind level fields).length < fuel := by
      simp only [fieldsBehind_cons, List.length_append, List.length_cons] at hfuel ⊢
      omega
    have later := ih h.2 fueled
    rw [List.length_append] at hfuel
    have first := h.1 (level + 1) fuel _ (by dsimp only; omega)
      (ends_fieldsBehind level ((name, w) :: fields) ('}' :: rest))
    obtain ⟨cs, hcs⟩ := exists_writeText key (':' :: ' ' :: (writtenAt (level + 1) v ++
      (fieldsBehind level ((name, w) :: fields) ++ ((lineBreak level).toList ++ '}' :: rest))))
    rw [hcs, readFields, ← hcs, readText_writeText]
    simp only [bind, Except.bind, skipSpace_of_isStart (c := ':') rfl, skipSpace_blank,
      skipSpace_writtenAt, first]
    simp only [fieldsBehind_cons, List.cons_append, List.append_assoc,
      skipSpace_of_isStart (c := ',') rfl, skipSpace_lineBreak, skipSpace_writeText, later]
    rfl

/-! ## Values without parts -/

/-- Neither a text nor a list nor an object starts with the character. -/
def isAtomStart (c : Char) : Bool := c != '"' && c != '[' && c != '{'

theorem readValue_of_isAtomStart {c : Char} (h : isAtomStart c = true) (room : Option Nat)
    (fuel : Nat) (cs : List Char) :
    readValue room (fuel + 1) (c :: cs) = readAtom (c :: cs) := by
  simp only [isAtomStart, Bool.and_eq_true, bne_iff_ne] at h
  rw [readValue.eq_def]
  dsimp only
  split
  · rename_i heq
    exact absurd (List.cons.inj heq).1 h.1.1
  · rename_i heq
    exact absurd (List.cons.inj heq).1 h.1.2
  · rename_i heq
    exact absurd (List.cons.inj heq).1 h.2
  · rfl

theorem readsBack_of_readAtom {v : Json} {p : String} {c : Char} {cs : List Char}
    (hp : ∀ level, pieces level v = [p]) (hcs : p.toList = c :: cs) (hc : isAtomStart c = true)
    (h : ∀ rest, Ends rest → readAtom (p.toList ++ rest) = .ok (v, rest)) : ReadsBack v := by
  intro level fuel rest hfuel hrest
  have written : writtenAt level v = p.toList := by
    rw [writtenAt, hp, List.flatMap_singleton]
  rw [written, hcs, List.length_cons] at hfuel
  obtain ⟨fuel, rfl⟩ := Nat.exists_eq_succ_of_ne_zero (show fuel ≠ 0 by omega)
  have := h rest hrest
  rw [hcs, List.cons_append] at this
  rw [written, hcs, List.cons_append, readValue_of_isAtomStart hc, this]

theorem readAtom_keyword (word : String) {v : Json} (h : (word, v) ∈ keywords) (rest : List Char) :
    readAtom (word.toList ++ rest) = .ok (v, rest) := by
  simp only [keywords, List.mem_cons, Prod.mk.injEq, List.not_mem_nil, or_false] at h
  rcases h with ⟨rfl, rfl⟩ | ⟨rfl, rfl⟩ | ⟨rfl, rfl⟩ | ⟨rfl, rfl⟩ | ⟨rfl, rfl⟩ | ⟨rfl, rfl⟩ <;> rfl

theorem isAtomStart_of_isNumeric {c : Char} (h : isNumeric c = true) : isAtomStart c = true := by
  by_contra hstart
  rw [isAtomStart] at hstart
  by_cases hc : c = '"' ∨ c = '[' ∨ c = '{'
  · rcases hc with rfl | rfl | rfl <;> exact absurd h (by decide)
  · simp_all

theorem readsBack_text (s : String) : ReadsBack (.text s) := by
  intro level fuel rest hfuel hrest
  have written : writtenAt level (.text s) = (writeText s).toList := by
    rw [writtenAt, pieces, List.flatMap_singleton]
  obtain ⟨cs, hcs⟩ := exists_writeText s rest
  obtain ⟨c, ds, hds, -⟩ := exists_writtenAt level (.text s)
  rw [hds, List.length_cons] at hfuel
  obtain ⟨fuel, rfl⟩ := Nat.exists_eq_succ_of_ne_zero (show fuel ≠ 0 by omega)
  rw [written, hcs, readValue, ← hcs, readText_writeText]
  rfl

theorem readsBack_of_numeric {v : Json} {p : String} (hp : ∀ level, pieces level v = [p])
    (hne : p.toList ≠ []) (hnumeric : ∀ c ∈ p.toList, isNumeric c = true)
    (h : ∀ rest, Ends rest → readAtom (p.toList ++ rest) = .ok (v, rest)) : ReadsBack v := by
  obtain ⟨c, cs, hcs⟩ := List.exists_cons_of_ne_nil hne
  exact readsBack_of_readAtom hp hcs
    (isAtomStart_of_isNumeric (hnumeric c (hcs ▸ List.mem_cons_self))) h

theorem readsBack_int {n : Int} (h : (Nat.toDigits 10 n.natAbs).length ≤ Number.maxDigits) :
    ReadsBack (.int n) :=
  readsBack_of_numeric (fun _ => rfl) (intText_ne_nil n) (isNumeric_of_mem_intText n)
    fun _ hrest => readAtom_intText h hrest

theorem readsBack_float {x : Binary64} (h : x.IsNumber) : ReadsBack (.float x) := by
  have read (rest : List Char) (hrest : Ends rest) := readAtom_floatText h hrest
  cases x with
  | nan => exact absurd h id
  | infinite negative =>
    cases negative <;> exact readsBack_of_readAtom (fun _ => rfl) rfl rfl read
  | finite negative m e =>
    exact readsBack_of_numeric (fun _ => rfl) (floatText_ne_nil negative m e)
      (isNumeric_of_mem_floatText negative m e) read

/-! ## All values -/

theorem length_writtenAt_pos (level : Nat) (v : Json) : 0 < (writtenAt level v).length := by
  obtain ⟨c, cs, hcs, -⟩ := exists_writtenAt level v
  rw [hcs]
  exact Nat.succ_pos _

theorem readsBack_list {items : List Json} (h : ∀ v ∈ items, ReadsBack v) :
    ReadsBack (.list items) := by
  intro level fuel rest hfuel hrest
  have written := length_writtenAt_pos level (.list items)
  obtain ⟨fuel, rfl⟩ := Nat.exists_eq_succ_of_ne_zero (show fuel ≠ 0 by omega)
  cases items with
  | nil => rfl
  | cons v items =>
    rw [writtenAt_list] at hfuel ⊢
    simp only [List.length_cons, List.length_append] at hfuel
    have fueled : 2 * (writtenAt (level + 1) v ++ itemsBehind level items).length < fuel := by
      rw [List.length_append]
      omega
    have later := readItems_written h fueled rest
    obtain ⟨c, cs, hcs, hc⟩ := exists_writtenAt (level + 1) v
    simp only [List.cons_append, List.append_assoc, List.nil_append]
    rw [readValue, enter_none]
    simp only [bind, Except.bind, skipSpace_lineBreak, skipSpace_writtenAt]
    split
    · rename_i heq
      rw [hcs, List.cons_append] at heq
      rw [(List.cons.inj heq).1] at hc
      cases hc
    · rw [later]
      rfl

theorem readsBack_object {fields : List (String × Json)} (hnodup : (Entries.keys fields).Nodup)
    (h : ∀ f ∈ fields, ReadsBack f.2) : ReadsBack (.object fields) := by
  intro level fuel rest hfuel hrest
  have written := length_writtenAt_pos level (.object fields)
  obtain ⟨fuel, rfl⟩ := Nat.exists_eq_succ_of_ne_zero (show fuel ≠ 0 by omega)
  cases fields with
  | nil => rfl
  | cons f fields =>
    obtain ⟨key, v⟩ := f
    rw [writtenAt_object] at hfuel ⊢
    simp only [List.length_cons, List.length_append] at hfuel
    have fueled : 2 * (writtenAt (level + 1) v ++ fieldsBehind level fields).length < fuel := by
      rw [List.length_append]
      omega
    have later := readFields_written h fueled rest
    simp only [List.cons_append, List.append_assoc, List.nil_append]
    rw [readValue, enter_none]
    simp only [bind, Except.bind, skipSpace_lineBreak, skipSpace_writeText]
    split
    · rename_i heq
      rw [writeText, String.toList_ofList] at heq
      cases heq
    · rw [later]
      exact congrArg (fun t => Except.ok (object t, rest)) (Entries.ofPairs_of_nodup hnodup)

theorem Sound.readsBack {v : Json} (h : v.Sound) : ReadsBack v := by
  induction h with
  | null =>
    exact readsBack_of_readAtom (fun _ => rfl) rfl rfl fun rest _ =>
      readAtom_keyword "null" (by simp [keywords]) rest
  | bool b =>
    cases b with
    | true =>
      exact readsBack_of_readAtom (fun _ => rfl) rfl rfl fun rest _ =>
        readAtom_keyword "true" (by simp [keywords]) rest
    | false =>
      exact readsBack_of_readAtom (fun _ => rfl) rfl rfl fun rest _ =>
        readAtom_keyword "false" (by simp [keywords]) rest
  | int h => exact readsBack_int h
  | float h => exact readsBack_float h
  | text h => exact readsBack_text _
  | list h ih => exact readsBack_list ih
  | object nodup whole h ih => exact readsBack_object nodup ih

theorem read_write {v : Json} (h : v.Sound) : read v.write.toList = .ok v := by
  have written : v.write.toList = writtenAt 0 v := String.toList_join
  have read := h.readsBack 0 (2 * (writtenAt 0 v).length + 2) [] (by omega)
    fun _ hc => absurd hc (by simp)
  rw [List.append_nil] at read
  have space := skipSpace_writtenAt 0 v []
  rw [List.append_nil] at space
  obtain ⟨c, cs, hcs, hc⟩ := exists_writtenAt 0 v
  rw [written, Json.read.eq_def]
  split
  · rename_i heq
    rw [hcs] at heq
    rw [(List.cons.inj heq).1] at hc
    cases hc
  · rw [space, read]
    rfl

/-! ## Objects that are read -/

theorem ne_object_of_readNumber {cs rest : List Char} {v : Json}
    (h : readNumber cs = .ok (v, rest)) (fields : List (String × Json)) : v ≠ .object fields := by
  rintro rfl
  unfold readNumber at h
  dsimp only at h
  split at h
  · cases h
  · split at h
    · split at h <;> cases h
    · cases h

theorem ne_object_of_readAtom {cs rest : List Char} {v : Json}
    (h : readAtom cs = .ok (v, rest)) (fields : List (String × Json)) : v ≠ .object fields := by
  rw [readAtom] at h
  split at h
  · rename_i found hfound
    cases h
    obtain ⟨⟨word, v⟩, hmem, hword⟩ := List.exists_of_findSome?_eq_some hfound
    obtain ⟨_, -, ⟨⟩⟩ := Option.map_eq_some_iff.1 hword
    rintro rfl
    simp [keywords] at hmem
  · exact ne_object_of_readNumber h fields

/-- Of several values under one key the reader keeps the last, so that no key is left twice. -/
theorem nodup_keys_of_readValue {room : Option Nat} {fuel : Nat} {cs rest : List Char}
    {fields : List (String × Json)} (h : readValue room fuel cs = .ok (.object fields, rest)) :
    (Entries.keys fields).Nodup := by
  cases fuel with
  | zero => cases h
  | succ fuel =>
    unfold readValue at h
    split at h
    · obtain ⟨_, -, h⟩ := bind_eq_ok.1 h
      cases h
    · obtain ⟨_, -, h⟩ := bind_eq_ok.1 h
      split at h
      · cases h
      · obtain ⟨_, -, h⟩ := bind_eq_ok.1 h
        cases h
    · obtain ⟨_, -, h⟩ := bind_eq_ok.1 h
      split at h
      · cases h
        exact List.nodup_nil
      · obtain ⟨_, -, h⟩ := bind_eq_ok.1 h
        cases h
        exact Entries.nodup_keys_update (t := []) List.nodup_nil _
    · exact absurd rfl (ne_object_of_readAtom h fields)

theorem nodup_keys_of_read {room : Option Nat} {cs : List Char} {fields : List (String × Json)}
    (h : read cs room = .ok (.object fields)) : (Entries.keys fields).Nodup := by
  unfold read at h
  split at h
  · cases h
  · obtain ⟨⟨v, rest⟩, hv, h⟩ := bind_eq_ok.1 h
    dsimp only at h
    split at h
    · cases h
      exact nodup_keys_of_readValue hv
    · cases h

end SdlPhp.Json
