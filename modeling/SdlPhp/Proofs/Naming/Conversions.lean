import Mathlib
import SdlPhp.Proofs.Naming.Words

/-!
# Converting a converted name

A name in snake case has the words of the name that it was made from, in lower case, so that it
stands for that name in every conversion (`splitWords_toSnake`). A name in pascal case shows its
words by capitals alone. It stays as it is when it is converted again exactly when none of its words
runs into the next one (`toPascal_toPascal_iff`).
-/

namespace SdlPhp.Naming

/-! ## Words between underscores -/

theorem isUpper_of_mem_lower {w : List Char} : ∀ c ∈ lower w, c.isUpper = false :=
  List.forall_mem_map.2 fun c _ => Char.isUpper_toLower_eq_false c

theorem lower_lower (w : List Char) : lower (lower w) = lower w := by
  rw [lower, lower, List.map_map]
  exact List.map_congr_left fun c _ => Char.toLower_toLower_eq_toLower c

theorem capitalize_lower (w : List Char) : capitalize (lower w) = capitalize w := by
  cases w with
  | nil => rfl
  | cons c cs =>
    change c.toLower.toUpper :: lower (lower cs) = c.toUpper :: lower cs
    rw [Char.toUpper_toLower_eq_toUpper, lower_lower]

/-- Only an upper-case letter is cut off from what stands before it. -/
theorem cutAfter_of_not_isUpper {a b : Char} (h : b.isUpper = false) (cs : List Char) :
    cutAfter (a :: b :: cs) 0 = false := by
  simp [cutAfter, h]

/-- Letters and digits without capitals are one word if none follows them. -/
theorem scan_append {p cs : List Char} (hp : p ≠ []) (halnum : ∀ c ∈ p, c.isAlphanum = true)
    (hlower : ∀ c ∈ p, c.isUpper = false) (hcs : cs.head?.any Char.isAlphanum = false) :
    scan (p ++ cs) = p :: scan cs := by
  induction p with
  | nil => exact absurd rfl hp
  | cons a p ih =>
    rw [List.forall_mem_cons] at halnum hlower
    cases p with
    | nil =>
      rw [List.singleton_append, scan, if_pos halnum.1, joins, hcs]
      rfl
    | cons b p =>
      have hjoins : joins a (b :: (p ++ cs)) = true := by
        rw [joins, cutAfter_of_not_isUpper (hlower.2 b List.mem_cons_self)]
        simpa using halnum.2 b List.mem_cons_self
      have hrest := ih (List.cons_ne_nil b p) halnum.2 hlower.2
      rw [List.cons_append] at hrest
      rw [List.cons_append, List.cons_append, scan, if_pos halnum.1, if_pos hjoins, hrest]
      rfl

/-- Lower-case words with underscores between them are read back. -/
theorem words_join {ps : List (List Char)} (hne : ∀ p ∈ ps, p ≠ [])
    (halnum : ∀ p ∈ ps, ∀ c ∈ p, c.isAlphanum = true)
    (hlower : ∀ p ∈ ps, ∀ c ∈ p, c.isUpper = false) : words (Text.join '_' ps) = ps := by
  rw [words_eq_scan]
  induction ps with
  | nil => rfl
  | cons p ps ih =>
    rw [List.forall_mem_cons] at hne halnum hlower
    cases ps with
    | nil =>
      have hword : scan (p ++ []) = p :: scan [] := scan_append hne.1 halnum.1 hlower.1 rfl
      rw [List.append_nil] at hword
      rw [Text.join_singleton, hword, scan]
    | cons q ps =>
      have hunderscore : ∀ cs, scan ('_' :: cs) = scan cs := fun _ => rfl
      rw [Text.join_cons_cons, scan_append hne.1 halnum.1 hlower.1 rfl, hunderscore,
        ih hne.2 halnum.2 hlower.2]

theorem words_snake (name : List Char) : words (snake name) = (words name).map lower := by
  refine words_join ?_ ?_ ?_
  · refine List.forall_mem_map.2 fun w hw hempty => ?_
    exact ne_nil_of_mem_words hw (List.map_eq_nil_iff.1 hempty)
  · exact List.forall_mem_map.2 fun w hw => isAlphanum_of_mem_lower (isAlphanum_of_mem_words hw)
  · exact List.forall_mem_map.2 fun w _ => isUpper_of_mem_lower

theorem pascal_snake (name : List Char) : pascal (snake name) = pascal name := by
  rw [pascal, words_snake, List.flatMap_map]
  exact List.flatMap_congr fun w _ => capitalize_lower w

/-- A name in snake case has the words of the name in lower case. No conversion tells it from the
name. -/
theorem splitWords_toSnake (name : String) :
    splitWords (toSnake name) = (splitWords name).map (fun w => String.ofList (lower w.toList)) ∧
      toSnake (toSnake name) = toSnake name ∧ toPascal (toSnake name) = toPascal name ∧
      toCamel (toSnake name) = toCamel name := by
  refine ⟨?_, ?_, ?_, ?_⟩
  · rw [splitWords, toList_toSnake, words_snake, splitWords, List.map_map, List.map_map]
    simp
  · rw [toSnake, toList_toSnake, snake, words_snake, List.map_map]
    simp only [Function.comp_def, lower_lower]
    rfl
  · rw [toPascal, toList_toSnake, pascal_snake, toPascal]
  · rw [toCamel, toList_toSnake, camel, pascal_snake, toCamel, camel]

/-! ## Pascal case in one pass -/

/-- Letters and digits in pascal case; `first` says whether a word starts with them. -/
def recase (first : Bool) : List Char → List Char
  | [] => []
  | a :: cs => (if first then a.toUpper else a.toLower) :: recase (cutAfter (a :: cs) 0) cs

/-- The words of letters and digits are put into pascal case one after the other. -/
theorem recase_of_scan {cs : List Char} (halnum : ∀ c ∈ cs, c.isAlphanum = true) :
    ∀ w ws, scan cs = w :: ws → ∀ first,
      recase first cs = (if first then capitalize w else lower w) ++ ws.flatMap capitalize := by
  induction cs with
  | nil =>
    intro w ws h
    cases h
  | cons a cs ih =>
    rw [List.forall_mem_cons] at halnum
    intro w ws h first
    rw [scan, if_pos halnum.1] at h
    rw [recase]
    cases cs with
    | nil =>
      cases h
      cases first <;> rfl
    | cons b cs =>
      have hb : b.isAlphanum = true := halnum.2 b List.mem_cons_self
      obtain ⟨v, vs, hscan⟩ := List.exists_cons_of_ne_nil (scan_ne_nil hb cs)
      rw [ih halnum.2 v vs hscan]
      cases hcut : cutAfter (a :: b :: cs) 0 with
      | true =>
        simp only [joins, hcut, Bool.not_true, Bool.and_false, Bool.false_eq_true, if_false,
          List.cons.injEq] at h
        obtain ⟨rfl, rfl⟩ := h
        cases first <;> simp [hscan, capitalize, lower]
      | false =>
        simp only [joins, List.head?_cons, Option.any_some, hb, hcut, Bool.not_false, Bool.and_true,
          if_true, hscan, List.modifyHead_cons, List.cons.injEq] at h
        obtain ⟨rfl, rfl⟩ := h
        cases first <;> simp [capitalize, lower]

theorem pascal_eq_recase {cs : List Char} (halnum : ∀ c ∈ cs, c.isAlphanum = true) :
    pascal cs = recase true cs := by
  cases cs with
  | nil => rfl
  | cons c cs =>
    obtain ⟨w, ws, hscan⟩ :=
      List.exists_cons_of_ne_nil (scan_ne_nil (halnum c List.mem_cons_self) cs)
    rw [recase_of_scan halnum w ws hscan, pascal, words_eq_scan, hscan]
    rfl

theorem recase_cons_eq_iff {first : Bool} {a : Char} {cs : List Char} :
    recase first (a :: cs) = a :: cs ↔
      (if first then a.toUpper else a.toLower) = a ∧ recase (cutAfter (a :: cs) 0) cs = cs := by
  rw [recase, List.cons.injEq]

/-- Lower-case letters and digits stay behind what stands before them. -/
theorem recase_lower_append_iff (a : Char) (ds cs : List Char) :
    recase (cutAfter (a :: (lower ds ++ cs)) 0) (lower ds ++ cs) = lower ds ++ cs ↔
      recase (cutAfter ((a :: lower ds).getLast (List.cons_ne_nil _ _) :: cs) 0) cs = cs := by
  induction ds generalizing a with
  | nil => rfl
  | cons d ds ih =>
    have hcut : cutAfter (a :: d.toLower :: (lower ds ++ cs)) 0 = false :=
      cutAfter_of_not_isUpper (Char.isUpper_toLower_eq_false d) _
    change recase (cutAfter (a :: d.toLower :: (lower ds ++ cs)) 0)
      (d.toLower :: (lower ds ++ cs)) = d.toLower :: (lower ds ++ cs) ↔ _
    rw [hcut, recase_cons_eq_iff, ih]
    simp [lower]

/-! ## Words that run into each other -/

/-- The word `v` runs into `w` when both are capitalised: a letter of its own before a capital that
no lower-case letter follows. -/
def RunsInto (v w : List Char) : Prop :=
  v.length = 1 ∧ (v[0]?).any Char.isAlpha = true ∧ (w[0]?).any Char.isAlpha = true ∧
    (w.length = 1 ∨ (w[1]?).any Char.isDigit = true)

instance (v w : List Char) : Decidable (RunsInto v w) :=
  inferInstanceAs (Decidable (_ ∧ _ ∧ _ ∧ (_ ∨ _)))

theorem isAlpha_eq_not_isDigit {c : Char} (h : c.isAlphanum = true) : c.isAlpha = !c.isDigit :=
  forall_alphanum (p := fun c => c.isAlpha = !c.isDigit) (by decide) h

theorem isLowerOrDigit_toLower {c : Char} (h : c.isAlphanum = true) :
    isLowerOrDigit c.toLower = true :=
  forall_alphanum (p := fun c => isLowerOrDigit c.toLower = true) (by decide) h

theorem isLowerOrDigit_toUpper {c : Char} (h : c.isAlphanum = true) :
    isLowerOrDigit c.toUpper = !c.isAlpha :=
  forall_alphanum (p := fun c => isLowerOrDigit c.toUpper = !c.isAlpha) (by decide) h

/-- A capital stays only where a word starts. -/
theorem recase_capital_iff {first : Bool} {e : Char} {cs : List Char} :
    recase first (e.toUpper :: cs) = e.toUpper :: cs ↔
      (e.isAlpha = true → first = true) ∧ recase true (e.toUpper :: cs) = e.toUpper :: cs := by
  rw [recase_cons_eq_iff, recase_cons_eq_iff]
  cases first with
  | true => simp
  | false =>
    have hsame : e.toLower = e.toUpper ↔ ¬ e.isAlpha = true := by
      constructor
      · intro h halpha
        have hupper := Char.isUpper_toUpper_eq_isAlpha e
        rw [← h, Char.isUpper_toLower_eq_false, halpha] at hupper
        exact Bool.noConfusion hupper
      · intro h
        rw [Char.isAlpha, Bool.or_eq_true, not_or] at h
        rw [Char.toLower_eq_of_not_isUpper h.1, Char.toUpper_eq_of_not_isLower h.2]
    simp [hsame]

/-- Behind a capitalised word a capital starts a word unless the one word runs into the other. -/
theorem cutAfter_getLast_iff {c e : Char} {d f cs : List Char}
    (hv : ∀ a ∈ c :: d, a.isAlphanum = true) (hf : ∀ a ∈ f, a.isAlphanum = true)
    (hcs : ∀ a ∈ cs.head?, a.isLower = false) (he : e.isAlpha = true) :
    cutAfter ((c.toUpper :: lower d).getLast (List.cons_ne_nil _ _) ::
        e.toUpper :: (lower f ++ cs)) 0 = true ↔ ¬ RunsInto (c :: d) (e :: f) := by
  rw [List.forall_mem_cons] at hv
  have hcapital : e.toUpper.isUpper = true := by rw [Char.isUpper_toUpper_eq_isAlpha, he]
  cases d with
  | nil =>
    have hbehind : ((lower f ++ cs)[0]?).any Char.isLower = true ↔
        ¬ (f = [] ∨ (f[0]?).any Char.isDigit = true) := by
      cases f with
      | nil =>
        cases cs with
        | nil => simp [lower]
        | cons a cs => simpa [lower] using hcs a rfl
      | cons g f => simp [lower, isAlpha_eq_not_isDigit (hf g List.mem_cons_self)]
    change cutAfter (c.toUpper :: e.toUpper :: (lower f ++ cs)) 0 = true ↔ _
    by_cases hc : c.isAlpha = true
    · simp [cutAfter, RunsInto, isLowerOrDigit_toUpper hv.1, hcapital, hc, he, hbehind]
    · simp [cutAfter, RunsInto, isLowerOrDigit_toUpper hv.1, hcapital, hc]
  | cons b d =>
    have hlast : isLowerOrDigit ((c.toUpper :: lower (b :: d)).getLast (List.cons_ne_nil _ _)) =
        true := by
      have hmem := List.getLast_mem (l := lower (b :: d)) (by simp [lower])
      rw [List.getLast_cons (by simp [lower])]
      obtain ⟨a, ha, hlower⟩ := List.mem_map.1 hmem
      rw [← hlower]
      exact isLowerOrDigit_toLower (hv.2 a ha)
    simp [cutAfter, RunsInto, hlast, hcapital]

theorem not_isLower_head?_capitals {ws : List (List Char)} (hne : ∀ w ∈ ws, w ≠ []) :
    ∀ a ∈ (ws.flatMap capitalize).head?, a.isLower = false := by
  cases ws with
  | nil => exact fun a ha => nomatch ha
  | cons w ws =>
    obtain ⟨c, cs, rfl⟩ := List.exists_cons_of_ne_nil (hne w List.mem_cons_self)
    rintro _ ⟨⟩
    exact Char.isLower_toUpper_eq_false c

/-- Capitalised words stay as they are exactly when none runs into the next one. -/
theorem recase_capitals_iff {ws : List (List Char)} (hne : ∀ w ∈ ws, w ≠ [])
    (halnum : ∀ w ∈ ws, ∀ c ∈ w, c.isAlphanum = true) :
    recase true (ws.flatMap capitalize) = ws.flatMap capitalize ↔
      ws.IsChain fun v w => ¬ RunsInto v w := by
  induction ws with
  | nil => simp [recase]
  | cons v ws ih =>
    obtain ⟨hv, hws⟩ := List.forall_mem_cons.1 hne
    obtain ⟨hvalnum, hwsalnum⟩ := List.forall_mem_cons.1 halnum
    obtain ⟨c, d, rfl⟩ := List.exists_cons_of_ne_nil hv
    change recase true (c.toUpper :: (lower d ++ ws.flatMap capitalize)) =
      c.toUpper :: (lower d ++ ws.flatMap capitalize) ↔ _
    rw [recase_cons_eq_iff, if_pos rfl, recase_lower_append_iff,
      and_iff_right (Char.toUpper_toUpper_eq_toUpper c)]
    cases ws with
    | nil => simp [recase]
    | cons w ws =>
      rw [List.isChain_cons_cons, ← ih hws hwsalnum]
      obtain ⟨hw, hrest⟩ := List.forall_mem_cons.1 hws
      have hwalnum := hwsalnum w List.mem_cons_self
      obtain ⟨e, f, rfl⟩ := List.exists_cons_of_ne_nil hw
      change recase _ (e.toUpper :: (lower f ++ ws.flatMap capitalize)) =
        e.toUpper :: (lower f ++ ws.flatMap capitalize) ↔
        _ ∧ recase true (e.toUpper :: (lower f ++ ws.flatMap capitalize)) =
          e.toUpper :: (lower f ++ ws.flatMap capitalize)
      rw [recase_capital_iff]
      refine and_congr_left' ?_
      by_cases he : e.isAlpha = true
      · have hf : ∀ a ∈ f, a.isAlphanum = true := fun a ha => hwalnum a (List.mem_cons_of_mem e ha)
        rw [forall_prop_of_true he]
        exact cutAfter_getLast_iff hvalnum hf (not_isLower_head?_capitals hrest) he
      · rw [forall_prop_of_false he]
        exact iff_of_true trivial fun h => he (by simpa using h.2.2.1)

theorem pascal_pascal_iff (name : List Char) :
    pascal (pascal name) = pascal name ↔ (words name).IsChain fun v w => ¬ RunsInto v w := by
  rw [pascal_eq_recase (isAlphanum_of_mem_pascal name)]
  exact recase_capitals_iff (fun _ => ne_nil_of_mem_words) fun _ => isAlphanum_of_mem_words

/-- A name in pascal case stays as it is when it is converted again, unless two of its words run
into each other: a single letter, and a word that starts with a letter and has no second character
or a digit there. -/
theorem toPascal_toPascal_iff (name : String) :
    toPascal (toPascal name) = toPascal name ↔
      ¬ ∃ i v w, (splitWords name)[i]? = some v ∧ (splitWords name)[i + 1]? = some w ∧
        RunsInto v.toList w.toList := by
  have hchars : toPascal (toPascal name) = toPascal name ↔
      pascal (pascal name.toList) = pascal name.toList := by
    rw [← String.toList_inj, toList_toPascal, toList_toPascal]
  rw [hchars, pascal_pascal_iff, List.isChain_iff_getElem, splitWords]
  constructor
  · rintro h ⟨i, v, w, hv, hw, hruns⟩
    rw [List.getElem?_map, Option.map_eq_some_iff] at hv hw
    obtain ⟨v, hv, rfl⟩ := hv
    obtain ⟨w, hw, rfl⟩ := hw
    obtain ⟨hi, rfl⟩ := List.getElem?_eq_some_iff.1 hw
    obtain ⟨_, rfl⟩ := List.getElem?_eq_some_iff.1 hv
    exact h i hi (by simpa using hruns)
  · intro h i hi hruns
    have hi' : i < (words name.toList).length := Nat.lt_of_succ_lt hi
    refine h ⟨i, String.ofList (words name.toList)[i], String.ofList (words name.toList)[i + 1],
      ?_, ?_, ?_⟩
    · rw [List.getElem?_map, List.getElem?_eq_getElem hi', Option.map_some]
    · rw [List.getElem?_map, List.getElem?_eq_getElem hi, Option.map_some]
    · rwa [String.toList_ofList, String.toList_ofList]

/-- A lone letter runs into a word with a digit behind its letter, but not into other words. -/
example : toPascal "x_y2" = "XY2" ∧ toPascal "XY2" = "Xy2" ∧ toPascal "x_yz" = "XYz" ∧
    toPascal "XYz" = "XYz" := by decide

end SdlPhp.Naming
