import Mathlib.Tactic.ByContra
import SdlPhp.World.Basic

/-!
# Order of paths

Paths are sorted part by part, and parts by the numbers of their code points. On parts that are
texts of code points this is a linear order (`lexBefore_trans`, `lexBefore_total`,
`lexBefore_antisymm`), so that there is one way to sort them (`mergeSort_lexBefore_of_perm`).
-/

namespace SdlPhp

/-! ## Order of texts -/

namespace Text

/-- The text is that of its code points, and halves of surrogate pairs in it are some. -/
structure Faithful (s : String) : Prop where
  kept : ofCodePoints (codePoints s.toList) = s.toList
  valid : ∀ p ∈ codePoints s.toList, p.IsValid

instance : DecidablePred CodePoint.IsValid
  | .char _ => isTrue trivial
  | .half unit => inferInstanceAs (Decidable (isHighSurrogate unit = true ∨ _))

instance (s : String) : Decidable (Faithful s) :=
  decidable_of_iff (_ ∧ _) ⟨fun h => ⟨h.1, h.2⟩, fun h => ⟨h.kept, h.valid⟩⟩

theorem CodePoint.eq_of_number {p q : CodePoint} (hp : p.IsValid) (hq : q.IsValid)
    (h : p.number = q.number) : p = q := by
  have not_surrogate (c : Char) (unit : Nat) (hunit : IsValid (.half unit)) : c.toNat ≠ unit := by
    have hc : Nat.isValidChar c.toNat := c.valid
    simp only [IsValid, isHighSurrogate, isLowSurrogate, Bool.and_eq_true,
      decide_eq_true_eq] at hunit
    simp only [Nat.isValidChar] at hc
    omega
  cases p with
  | char c =>
    cases q with
    | char d => exact congrArg char (Char.toNat_inj.1 h)
    | half unit => exact absurd h (not_surrogate c unit hq)
  | half unit =>
    cases q with
    | char d => exact absurd h.symm (not_surrogate d unit hp)
    | half other => exact congrArg half h

theorem eq_of_map_number {ps qs : List CodePoint} (hps : ∀ p ∈ ps, p.IsValid)
    (hqs : ∀ q ∈ qs, q.IsValid) (h : ps.map CodePoint.number = qs.map CodePoint.number) :
    ps = qs := by
  induction ps generalizing qs with
  | nil => exact (List.map_eq_nil_iff.1 h.symm).symm
  | cons p ps ih =>
    cases qs with
    | nil => cases h
    | cons q qs =>
      rw [List.forall_mem_cons] at hps hqs
      obtain ⟨hhead, htail⟩ := List.cons_eq_cons.1 h
      rw [CodePoint.eq_of_number hps.1 hqs.1 hhead, ih hps.2 hqs.2 htail]

variable {s t u : String}

theorem inOrder_iff : inOrder s t = true ↔
    ¬ List.Lex (· < ·) ((codePoints t.toList).map CodePoint.number)
      ((codePoints s.toList).map CodePoint.number) := by
  rw [inOrder, Bool.not_eq_true', List.lex_eq_false_iff_not_lex]
  simp only [Nat.blt_eq]

theorem inOrder_total (s t : String) : inOrder s t = true ∨ inOrder t s = true := by
  rw [inOrder_iff, inOrder_iff]
  exact List.not_lex_total (fun x y => by omega) _ _

theorem inOrder_trans (hst : inOrder s t = true) (htu : inOrder t u = true) :
    inOrder s u = true := by
  rw [inOrder_iff, List.not_lex_lt] at *
  exact List.le_trans hst htu

theorem Faithful.eq_of_inOrder (hs : Faithful s) (ht : Faithful t) (hst : inOrder s t = true)
    (hts : inOrder t s = true) : s = t := by
  rw [inOrder_iff, List.not_lex_lt] at hst hts
  have points := eq_of_map_number hs.valid ht.valid (List.le_antisymm hst hts)
  rw [← String.toList_inj, ← hs.kept, ← ht.kept, points]

end Text

/-! ## Order of parts -/

namespace World

variable {as bs cs : List String}

theorem lexBefore_append (ps as bs : List String) :
    lexBefore (ps ++ as) (ps ++ bs) = lexBefore as bs := by
  induction ps with
  | nil => rfl
  | cons p ps ih => rw [List.cons_append, List.cons_append, lexBefore, if_pos rfl, ih]

theorem lexBefore_total (as bs : List String) :
    lexBefore as bs = true ∨ lexBefore bs as = true := by
  induction as generalizing bs with
  | nil => exact .inl rfl
  | cons a as ih =>
    cases bs with
    | nil => exact .inr rfl
    | cons b bs =>
      rw [lexBefore, lexBefore]
      by_cases hab : a = b
      · rw [if_pos hab, if_pos hab.symm]
        exact ih bs
      · rw [if_neg hab, if_neg (Ne.symm hab)]
        exact Text.inOrder_total a b

theorem lexBefore_antisymm (has : ∀ a ∈ as, Text.Faithful a) (hbs : ∀ b ∈ bs, Text.Faithful b)
    (hab : lexBefore as bs = true) (hba : lexBefore bs as = true) : as = bs := by
  induction as generalizing bs with
  | nil =>
    cases bs with
    | nil => rfl
    | cons b bs => cases hba
  | cons a as ih =>
    cases bs with
    | nil => cases hab
    | cons b bs =>
      rw [List.forall_mem_cons] at has hbs
      have heads : a = b := by
        by_contra hne
        rw [lexBefore, if_neg hne] at hab
        rw [lexBefore, if_neg (Ne.symm hne)] at hba
        exact hne (has.1.eq_of_inOrder hbs.1 hab hba)
      rw [lexBefore, if_pos heads] at hab
      rw [lexBefore, if_pos heads.symm] at hba
      rw [heads, ih has.2 hbs.2 hab hba]

theorem lexBefore_trans (has : ∀ a ∈ as, Text.Faithful a) (hbs : ∀ b ∈ bs, Text.Faithful b)
    (hab : lexBefore as bs = true) (hbc : lexBefore bs cs = true) :
    lexBefore as cs = true := by
  induction as generalizing bs cs with
  | nil => rfl
  | cons a as ih =>
    cases bs with
    | nil => cases hab
    | cons b bs =>
      cases cs with
      | nil => cases hbc
      | cons c cs =>
        rw [List.forall_mem_cons] at has hbs
        rw [lexBefore] at *
        by_cases heq : a = b
        · subst heq
          rw [if_pos rfl] at hab
          by_cases hac : a = c
          · rw [if_pos hac] at hbc ⊢
            exact ih has.2 hbs.2 hab hbc
          · rwa [if_neg hac] at hbc ⊢
        · rw [if_neg heq] at hab
          by_cases hbceq : b = c
          · subst hbceq
            rwa [if_neg heq]
          · rw [if_neg hbceq] at hbc
            -- texts that are both before each other are the same
            have hac : a ≠ c := fun hac => heq (has.1.eq_of_inOrder hbs.1 hab (hac ▸ hbc))
            rw [if_neg hac]
            exact Text.inOrder_trans hab hbc

/-! ## Sorting -/

/-- All parts are texts of code points. -/
def FaithfulParts (parts : List String) : Prop := ∀ part ∈ parts, Text.Faithful part

theorem pairwise_mergeSort_lexBefore {xs : List (List String)} (h : ∀ x ∈ xs, FaithfulParts x) :
    (xs.mergeSort lexBefore).Pairwise fun a b => lexBefore a b = true := by
  -- sorting needs an order of all elements of a type
  let faithful : List { x : List String // FaithfulParts x } := xs.attachWith FaithfulParts h
  let before (a b : { x : List String // FaithfulParts x }) : Bool := lexBefore a.1 b.1
  have trans (a b c : { x : List String // FaithfulParts x }) (hab : before a b = true)
      (hbc : before b c = true) : before a c = true := lexBefore_trans a.2 b.2 hab hbc
  have total (a b : { x : List String // FaithfulParts x }) :
      (before a b || before b a) = true := Bool.or_eq_true_iff.2 (lexBefore_total a.1 b.1)
  have sorted := List.pairwise_mergeSort trans total faithful
  have mapped : (faithful.mergeSort before).map Subtype.val =
      (faithful.map Subtype.val).mergeSort lexBefore := List.map_mergeSort fun _ _ _ _ => rfl
  have values : faithful.map Subtype.val = xs := List.attachWith_map_subtype_val h
  rw [← values, ← mapped]
  exact List.pairwise_map.2 sorted

/-- In whatever order the lists of parts come, they are sorted in one way. -/
theorem mergeSort_lexBefore_of_perm {xs ys : List (List String)} (hperm : xs.Perm ys)
    (h : ∀ x ∈ xs, FaithfulParts x) : xs.mergeSort lexBefore = ys.mergeSort lexBefore := by
  have hys : ∀ y ∈ ys, FaithfulParts y := fun y hy => h y (hperm.mem_iff.2 hy)
  refine List.Perm.eq_of_pairwise (fun a b ha hb => ?_) (pairwise_mergeSort_lexBefore h)
    (pairwise_mergeSort_lexBefore hys)
    ((List.mergeSort_perm xs _).trans (hperm.trans (List.mergeSort_perm ys _).symm))
  exact lexBefore_antisymm (h a (List.mem_mergeSort.1 ha)) (hys b (List.mem_mergeSort.1 hb))

end World

end SdlPhp
