import SdlPhp.Proofs.Naming.Characters

/-!
# Words in one pass

The words of a name, which three passes over it find, are found in one pass that looks at most two
characters ahead: the gaps that one pass puts in neither make nor hide a place where the other one
puts a gap (`words_eq_scan`). By their places, the words are the maximal runs of letters and digits,
cut where the case changes, and no letter or digit is lost, doubled or moved
(`splitWords_eq_slices`).
-/

namespace SdlPhp.Naming

/-! ## Passes for changes of case -/

theorem not_isLowerOrDigit_of_isUpper {c : Char} (h : c.isUpper = true) :
    isLowerOrDigit c = false := by
  have halpha : c.isAlpha = true := by
    change (c.isUpper || c.isLower) = true
    rw [h, Bool.true_or]
  exact forall_alphanum (p := fun c => c.isUpper = true → isLowerOrDigit c = false) (by decide)
    (isAlphanum_of_isAlpha halpha) h

theorem not_isUpper_of_isLowerOrDigit {c : Char} (h : isLowerOrDigit c = true) :
    c.isUpper = false := by
  by_contra hupper
  rw [Bool.not_eq_false] at hupper
  rw [not_isLowerOrDigit_of_isUpper hupper] at h
  exact Bool.noConfusion h

/-- A lower-case letter or digit, and an upper-case letter behind it. -/
def rises (a : Char) (cs : List Char) : Bool := isLowerOrDigit a && (cs[0]?).any Char.isUpper

/-- An upper-case letter, and a capitalised word behind it. -/
def endsAcronym (a : Char) (cs : List Char) : Bool :=
  a.isUpper && (cs[0]?).any Char.isUpper && (cs[1]?).any Char.isLower

/-- Puts a gap behind every character where `cut` holds of it and what follows. -/
def gaps (cut : Char → List Char → Bool) : List Char → List Char
  | [] => []
  | a :: cs => if cut a cs then a :: ' ' :: gaps cut cs else a :: gaps cut cs

theorem head?_gaps (cut : Char → List Char → Bool) (cs : List Char) :
    (gaps cut cs).head? = cs.head? := by
  cases cs with
  | nil => rfl
  | cons a cs =>
    rw [gaps]
    split <;> rfl

theorem gaps_cons_of_not {cut : Char → List Char → Bool} {a : Char} {cs : List Char}
    (h : cut a cs = false) : gaps cut (a :: cs) = a :: gaps cut cs := by
  rw [gaps, if_neg (by simp [h])]

theorem not_rises {a : Char} (h : a.isUpper = true) (cs : List Char) : rises a cs = false := by
  rw [rises, not_isLowerOrDigit_of_isUpper h, Bool.false_and]

theorem isLowerOrDigit_of_rises {a : Char} {cs : List Char} (h : rises a cs = true) :
    isLowerOrDigit a = true := by
  rw [rises, Bool.and_eq_true] at h
  exact h.1

theorem not_endsAcronym {a : Char} (h : isLowerOrDigit a = true) (cs : List Char) :
    endsAcronym a cs = false := by
  rw [endsAcronym, not_isUpper_of_isLowerOrDigit h, Bool.false_and, Bool.false_and]

/-- No gap is missed by going on behind the upper-case letter. -/
theorem gapAtRise_eq_gaps (cs : List Char) : gapAtRise cs = gaps rises cs := by
  fun_induction gapAtRise cs with
  | case1 a b cs h ih =>
    have hrises : rises a (b :: cs) = true := h
    rw [Bool.and_eq_true] at h
    rw [gaps, if_pos hrises, gaps_cons_of_not (not_rises h.2 cs), ih]
  | case2 a b cs h ih =>
    have hrises : rises a (b :: cs) = false := Bool.eq_false_iff.2 h
    rw [gaps_cons_of_not hrises, ih]
  | case3 cs h =>
    cases cs with
    | nil => rfl
    | cons a cs =>
      cases cs with
      | nil => simp [gaps, rises]
      | cons b cs => exact absurd rfl (h a b cs)

/-- No gap is missed by going on behind the lower-case letter. -/
theorem gapAtAcronym_eq_gaps (cs : List Char) : gapAtAcronym cs = gaps endsAcronym cs := by
  fun_induction gapAtAcronym cs with
  | case1 a b c cs h ih =>
    have hends : endsAcronym a (b :: c :: cs) = true := h
    rw [Bool.and_eq_true, Bool.and_eq_true] at h
    have hlower : isLowerOrDigit c = true := by rw [isLowerOrDigit, h.2, Bool.true_or]
    have hnext : endsAcronym b (c :: cs) = false := by
      simp [endsAcronym, not_isUpper_of_isLowerOrDigit hlower]
    rw [gaps, if_pos hends, gaps_cons_of_not hnext, gaps_cons_of_not (not_endsAcronym hlower cs),
      ih]
  | case2 a b c cs h ih =>
    have hends : endsAcronym a (b :: c :: cs) = false := Bool.eq_false_iff.2 h
    rw [gaps_cons_of_not hends, ih]
  | case3 cs h =>
    cases cs with
    | nil => rfl
    | cons a cs =>
      cases cs with
      | nil => simp [gaps, endsAcronym]
      | cons b cs =>
        cases cs with
        | nil => simp [gaps, endsAcronym]
        | cons c cs => exact absurd rfl (h a b c cs)

/-- Gaps behind lower-case letters and digits do not matter to the end of an acronym. -/
theorem endsAcronym_gaps (a : Char) (cs : List Char) :
    endsAcronym a (gaps rises cs) = endsAcronym a cs := by
  cases cs with
  | nil => rfl
  | cons b cs =>
    by_cases hrises : rises b cs = true
    · have hupper := not_isUpper_of_isLowerOrDigit (isLowerOrDigit_of_rises hrises)
      rw [gaps, if_pos hrises]
      simp [endsAcronym, hupper]
    · rw [gaps_cons_of_not (Bool.eq_false_iff.2 hrises)]
      have hnext := head?_gaps rises cs
      rw [List.head?_eq_getElem?, List.head?_eq_getElem?] at hnext
      simp [endsAcronym, hnext]

/-- Both passes together put in the gaps of each of them. -/
theorem gaps_endsAcronym_gaps_rises (cs : List Char) :
    gaps endsAcronym (gaps rises cs) = gaps (fun a cs => rises a cs || endsAcronym a cs) cs := by
  induction cs with
  | nil => rfl
  | cons a cs ih =>
    by_cases hrises : rises a cs = true
    · have hblank : endsAcronym ' ' (gaps rises cs) = false := rfl
      rw [gaps, if_pos hrises,
        gaps_cons_of_not (not_endsAcronym (isLowerOrDigit_of_rises hrises) _),
        gaps_cons_of_not hblank, ih, gaps, if_pos (by rw [hrises, Bool.true_or])]
    · rw [gaps_cons_of_not (Bool.eq_false_iff.2 hrises), gaps, gaps, endsAcronym_gaps,
        Bool.eq_false_iff.2 hrises, Bool.false_or, ih]

/-! ## One pass -/

/-- The case changes behind place `i`: an upper-case letter follows a lower-case letter or digit, or
it follows an upper-case letter and has a lower-case letter behind it. -/
def cutAfter (cs : List Char) (i : Nat) : Bool :=
  (cs[i]?).any isLowerOrDigit && (cs[i + 1]?).any Char.isUpper ||
    (cs[i]?).any Char.isUpper && (cs[i + 1]?).any Char.isUpper && (cs[i + 2]?).any Char.isLower

theorem cutAfter_cons_succ (a : Char) (cs : List Char) (i : Nat) :
    cutAfter (a :: cs) (i + 1) = cutAfter cs i := rfl

/-- The character `a` belongs to one word with the next one: a letter or digit that is not cut off
from it. -/
def joins (a : Char) (cs : List Char) : Bool :=
  cs.head?.any Char.isAlphanum && !cutAfter (a :: cs) 0

theorem exists_of_joins {a : Char} {cs : List Char} (h : joins a cs = true) :
    ∃ b ds, cs = b :: ds ∧ b.isAlphanum = true ∧ cutAfter (a :: cs) 0 = false := by
  rw [joins, Bool.and_eq_true, Option.any_eq_true, Bool.not_eq_true'] at h
  obtain ⟨⟨b, hb, halnum⟩, hcut⟩ := h
  obtain ⟨ds, rfl⟩ := List.head?_eq_some_iff.1 hb
  exact ⟨b, ds, rfl, halnum, hcut⟩

/-- The words of a name in one pass: a letter or digit joins the word behind it unless that one is
cut off. -/
def scan : List Char → List (List Char)
  | [] => []
  | a :: cs =>
    if a.isAlphanum then
      if joins a cs then (scan cs).modifyHead (a :: ·) else [a] :: scan cs
    else scan cs

theorem runs_gaps (cs : List Char) :
    Text.runs Char.isAlphanum (gaps (fun a cs => cutAfter (a :: cs) 0) cs) = scan cs := by
  induction cs with
  | nil => rfl
  | cons a cs ih =>
    have hblank : ∀ ds, Text.runs Char.isAlphanum (' ' :: ds) = Text.runs Char.isAlphanum ds :=
      fun _ => Text.runs_cons _ _
    rw [gaps, scan, joins]
    by_cases hcut : cutAfter (a :: cs) 0 = true
    · rw [if_pos hcut, Text.runs_cons, hblank, ih, hcut]
      simp
    · rw [if_neg hcut, Text.runs_cons, head?_gaps, ih, Bool.eq_false_iff.2 hcut]
      simp

/-- The passes find the words that one pass finds. -/
theorem words_eq_scan (cs : List Char) : words cs = scan cs := by
  rw [words, gapAtRise_eq_gaps, gapAtAcronym_eq_gaps, gaps_endsAcronym_gaps_rises, ← runs_gaps]
  rfl

theorem scan_ne_nil {c : Char} (hc : c.isAlphanum = true) (cs : List Char) :
    scan (c :: cs) ≠ [] := by
  rw [← runs_gaps, gaps]
  split <;> exact Text.runs_ne_nil hc _

/-- Nothing but what is no letter or digit is lost. -/
theorem flatten_scan (cs : List Char) : (scan cs).flatten = cs.filter Char.isAlphanum := by
  induction cs with
  | nil => rfl
  | cons a cs ih =>
    rw [scan]
    by_cases ha : a.isAlphanum = true
    · rw [if_pos ha, List.filter_cons_of_pos ha, ← ih]
      split
      · rename_i hjoins
        obtain ⟨b, ds, rfl, halnum, -⟩ := exists_of_joins hjoins
        obtain ⟨w, ws, hscan⟩ := List.exists_cons_of_ne_nil (scan_ne_nil halnum ds)
        rw [hscan]
        rfl
      · rfl
    · rw [if_neg ha, List.filter_cons_of_neg ha, ih]

theorem flatten_words (name : List Char) : (words name).flatten = name.filter Char.isAlphanum := by
  rw [words_eq_scan, flatten_scan]

/-! ## Places -/

/-- The places of the letters and digits of a name. -/
def letterPlaces (cs : List Char) : List Nat :=
  (List.range cs.length).filter fun i => (cs[i]?).any Char.isAlphanum

/-- The places of the words of a name: the maximal runs of neighbouring letters and digits without
a cut between them. -/
def wordPlaces (cs : List Char) : List (List Nat) :=
  (letterPlaces cs).splitBy fun i j => j == i + 1 && !cutAfter cs i

/-- What stands at places of a name. -/
def charsAt (cs : List Char) (places : List Nat) : List Char := places.filterMap (cs[·]?)

theorem letterPlaces_cons (a : Char) (cs : List Char) :
    letterPlaces (a :: cs) =
      if a.isAlphanum then 0 :: (letterPlaces cs).map (· + 1) else (letterPlaces cs).map (· + 1) := by
  have hbehind : ((List.range cs.length).map (· + 1)).filter
      (fun i => ((a :: cs)[i]?).any Char.isAlphanum) = (letterPlaces cs).map (· + 1) :=
    List.filter_map
  rw [letterPlaces, List.length_cons, List.range_succ_eq_map, List.filter_cons]
  exact congrArg (fun ds => if a.isAlphanum then 0 :: ds else ds) hbehind

/-- The words behind the first character have their places one further on. -/
theorem splitBy_letterPlaces (a : Char) (cs : List Char) :
    ((letterPlaces cs).map (· + 1)).splitBy (fun i j => j == i + 1 && !cutAfter (a :: cs) i) =
      (wordPlaces cs).map (List.map (· + 1)) := by
  rw [splitBy_map, wordPlaces]
  simp [cutAfter_cons_succ]

theorem wordPlaces_cons (a : Char) (cs : List Char) :
    wordPlaces (a :: cs) =
      if a.isAlphanum then
        if joins a cs then ((wordPlaces cs).map (List.map (· + 1))).modifyHead (0 :: ·)
        else [0] :: (wordPlaces cs).map (List.map (· + 1))
      else (wordPlaces cs).map (List.map (· + 1)) := by
  have hbehind := splitBy_letterPlaces a cs
  rw [wordPlaces, letterPlaces_cons]
  by_cases ha : a.isAlphanum = true
  · rw [if_pos ha, if_pos ha]
    by_cases hjoins : joins a cs = true
    · rw [if_pos hjoins]
      obtain ⟨b, ds, rfl, halnum, hcut⟩ := exists_of_joins hjoins
      rw [letterPlaces_cons, if_pos halnum, List.map_cons] at hbehind ⊢
      rw [splitBy_cons_of_rel (by simpa using hcut), hbehind]
    · rw [if_neg hjoins, splitBy_cons_of_not, hbehind]
      intro j hj
      rw [List.head?_map, Option.mem_def, Option.map_eq_some_iff] at hj
      obtain ⟨i, hi, rfl⟩ := hj
      have hplace : (cs[i]?).any Char.isAlphanum = true :=
        (List.mem_filter.1 (List.mem_of_mem_head? hi)).2
      cases i with
      | zero =>
        rw [← List.head?_eq_getElem?] at hplace
        simpa [joins, hplace] using hjoins
      | succ i => simp
  · rw [if_neg ha, if_neg ha, hbehind]

theorem charsAt_cons_map (a : Char) (cs : List Char) (places : List Nat) :
    charsAt (a :: cs) (places.map (· + 1)) = charsAt cs places := by
  rw [charsAt, List.filterMap_map]
  rfl

/-- The words are what stands at their places. -/
theorem scan_eq_charsAt (cs : List Char) : scan cs = (wordPlaces cs).map (charsAt cs) := by
  induction cs with
  | nil => rfl
  | cons a cs ih =>
    have hbehind : ((wordPlaces cs).map (List.map (· + 1))).map (charsAt (a :: cs)) = scan cs := by
      rw [List.map_map, ih]
      exact List.map_congr_left fun places _ => charsAt_cons_map a cs places
    rw [scan, wordPlaces_cons]
    split_ifs
    · rw [← hbehind]
      cases (wordPlaces cs).map (List.map (· + 1)) <;> rfl
    · rw [List.map_cons, hbehind]
      rfl
    · exact hbehind.symm

/-! ## Words of a text -/

/-- The words of a name are found in one pass. They are its maximal runs of letters and digits, cut
between a lower-case letter or digit and an upper-case letter and before a capitalised word that
follows an upper-case letter; so none is empty, and together they are all letters and digits. -/
theorem splitWords_eq_slices (name : String) :
    splitWords name = (scan name.toList).map String.ofList ∧
      scan name.toList = (wordPlaces name.toList).map (charsAt name.toList) ∧
      (∀ w ∈ splitWords name, w ≠ "") ∧
      (splitWords name).flatMap String.toList = name.toList.filter Char.isAlphanum := by
  refine ⟨?_, scan_eq_charsAt name.toList, ?_, ?_⟩
  · rw [splitWords, words_eq_scan]
  · refine List.forall_mem_map.2 fun w hw => ?_
    rw [Ne, String.ofList_eq_empty_iff]
    exact ne_nil_of_mem_words hw
  · rw [splitWords, List.flatMap_map, ← flatten_words]
    simp

/-- Both kinds of cuts, and a letter that is none of those that count. -/
example : splitWords "getHTTPResponse_codeßv2A" =
    ["get", "HTTP", "Response", "code", "v2", "A"] := by decide

end SdlPhp.Naming
