import SdlPhp.Delivery.Configuration
import SdlPhp.Proofs.Attempt
import SdlPhp.Proofs.Entries
import SdlPhp.Proofs.Text.Pieces

/-!
# Literals put among overrides

A literal is put under a value of an enum, and nothing else changes: not the literals of the other
values of that enum, and not the other enums. The keys that name an enum and a value come from a
table, so that of several literals for the same value only the last one is there; what results is
the same as if all of them were put one after the other. Main statements: `putLiterals_ofPairs` and
`literal?_foldl_addLiteral`.
-/

namespace SdlPhp.Arguments

open Attempt

variable {t u : Entries (Entries String)} {key enum value literal : String}
  {names : String × String}

/-! ## Keys -/

/-- A key names an enum and a value around its first dot, and the value is not empty. -/
theorem enumKey?_eq_some_iff :
    enumKey? key = some names ↔
      key.toList = names.1.toList ++ '.' :: names.2.toList ∧ '.' ∉ names.1.toList ∧
        names.2.toList ≠ [] := by
  constructor
  · intro h
    by_cases hmem : '.' ∈ key.toList
    · obtain ⟨enum, value, hkey, henum⟩ := List.eq_append_cons_of_mem hmem
      rw [enumKey?, hkey, Text.cutFirst_append_sep henum] at h
      cases value with
      | nil => cases h
      | cons c cs =>
        cases h
        simpa using ⟨hkey, henum⟩
    · rw [enumKey?, Text.cutFirst_of_not_mem hmem] at h
      cases h
  · rintro ⟨hkey, henum, hvalue⟩
    obtain ⟨c, cs, hcs⟩ := List.exists_cons_of_ne_nil hvalue
    rw [enumKey?, hkey, Text.cutFirst_append_sep henum, hcs]
    dsimp only
    rw [← hcs, String.ofList_toList, String.ofList_toList]

theorem enumKey?_inj {other : String} (h : enumKey? key = some names)
    (hother : enumKey? other = some names) : key = other := by
  rw [enumKey?_eq_some_iff] at h hother
  exact String.toList_inj.1 (h.1.trans hother.1.symm)

/-! ## One literal -/

/-- The literal for a value of an enum. -/
def literal? (t : Entries (Entries String)) (enum value : String) : Option String :=
  (Entries.get? t enum).bind fun own => Entries.get? own value

/-- There is a literal for the value of the enum. -/
def HasLiteral (t : Entries (Entries String)) (enum value : String) : Prop :=
  ∃ own, Entries.get? t enum = some own ∧ value ∈ Entries.keys own

theorem literal?_putLiteral_self : literal? (putLiteral t enum value literal) enum value =
    some literal := by
  simp [literal?, putLiteral, Entries.get?_put_self]

/-- Other enums, and the other values of the enum, keep their literals. -/
theorem literal?_putLiteral_of_ne {other name : String} (h : (enum, value) ≠ (other, name)) :
    literal? (putLiteral t enum value literal) other name = literal? t other name := by
  unfold literal? putLiteral
  by_cases henum : enum = other
  · subst henum
    have hvalue : value ≠ name := fun heq => h (heq ▸ rfl)
    rw [Entries.get?_put_self, Option.bind_some, Entries.get?_put_of_ne _ _ hvalue]
    cases Entries.get? t enum <;> rfl
  · rw [Entries.get?_put_of_ne _ _ henum]

theorem hasLiteral_putLiteral {other name : String} :
    HasLiteral (putLiteral t enum value literal) other name ↔
      (other, name) = (enum, value) ∨ HasLiteral t other name := by
  unfold HasLiteral putLiteral
  by_cases henum : enum = other
  · subst henum
    simp only [Entries.get?_put_self, Option.some.injEq, exists_eq_left', Entries.mem_keys_put]
    cases hown : Entries.get? t enum <;> simp [Entries.keys]
  · have hne : other ≠ enum := Ne.symm henum
    simp [Entries.get?_put_of_ne _ _ henum, hne]

theorem putLiteral_again (old : String) :
    putLiteral (putLiteral t enum value old) enum value literal =
      putLiteral t enum value literal := by
  simp [putLiteral, Entries.get?_put_self, Entries.put_put_self]

/-- A literal that is there can be replaced before or after another one is put. -/
theorem putLiteral_comm (hhas : HasLiteral t enum value) {other name : String}
    (h : (enum, value) ≠ (other, name)) (new : String) :
    putLiteral (putLiteral t other name new) enum value literal =
      putLiteral (putLiteral t enum value literal) other name new := by
  obtain ⟨own, hown, hvalue⟩ := hhas
  unfold putLiteral
  by_cases henum : enum = other
  · subst henum
    have hne : value ≠ name := fun heq => h (heq ▸ rfl)
    simp [hown, Entries.get?_put_self, Entries.put_put_self, Entries.put_comm_of_mem hvalue hne]
  · have hmem : enum ∈ Entries.keys t := by
      apply Classical.byContradiction
      intro hnot
      rw [← Entries.get?_eq_none_iff, hown] at hnot
      cases hnot
    rw [Entries.get?_put_of_ne _ _ (Ne.symm henum), Entries.get?_put_of_ne _ _ henum,
      Entries.put_comm_of_mem hmem henum]

/-! ## Literals with keys -/

/-- Puts the literal of an assignment under the enum and the value that its key names. -/
def putKeyed (t : Entries (Entries String)) (e : String × String) : Entries (Entries String) :=
  match enumKey? e.1 with
  | some (enum, value) => putLiteral t enum value e.2
  | none => t

theorem putKeyed_of_some (h : enumKey? key = some names) :
    putKeyed t (key, literal) = putLiteral t names.1 names.2 literal := by
  rw [putKeyed, h]

theorem putKeyed_of_none (h : enumKey? key = none) : putKeyed t (key, literal) = t := by
  rw [putKeyed, h]

theorem putLiterals_eq_ok_iff {literals : Entries String} :
    putLiterals t literals = .ok u ↔
      (∀ key ∈ Entries.keys literals, ∃ names, enumKey? key = some names) ∧
        u = literals.foldl putKeyed t := by
  unfold putLiterals
  induction literals generalizing t with
  | nil => simp [Entries.keys, pure, Except.pure, eq_comm]
  | cons e literals ih =>
    obtain ⟨key, literal⟩ := e
    rw [foldlM_cons_eq_ok, List.foldl_cons,
      show Entries.keys ((key, literal) :: literals) = key :: Entries.keys literals from rfl,
      List.forall_mem_cons]
    cases hkey : enumKey? key with
    | none => simp [hkey]
    | some names => simp [hkey, putKeyed_of_some hkey, ih]

/-- Of the literals with the same key the last one counts. -/
theorem lastCounts_putKeyed : Entries.LastCounts putKeyed fun t key =>
    ∀ names, enumKey? key = some names → HasLiteral t names.1 names.2 where
  has t key literal names h := by
    rw [putKeyed_of_some h, hasLiteral_putLiteral]
    exact .inl rfl
  keeps t e key hhas names h := by
    obtain ⟨other, literal⟩ := e
    cases hother : enumKey? other with
    | none =>
      rw [putKeyed_of_none hother]
      exact hhas names h
    | some _ =>
      rw [putKeyed_of_some hother, hasLiteral_putLiteral]
      exact .inr (hhas names h)
  again t key old new := by
    cases hkey : enumKey? key with
    | none => simp only [putKeyed_of_none hkey]
    | some names => simp only [putKeyed_of_some hkey, putLiteral_again]
  comm t key other literal new hhas hne := by
    cases hkey : enumKey? key with
    | none => simp only [putKeyed_of_none hkey]
    | some names =>
      cases hother : enumKey? other with
      | none => simp only [putKeyed_of_none hother]
      | some others =>
        have hnames : names ≠ others := by
          rintro rfl
          exact hne (enumKey?_inj hkey hother)
        simp only [putKeyed_of_some hkey, putKeyed_of_some hother,
          putLiteral_comm (hhas names hkey) hnames]

/-! ## Literals with the names of enum and value -/

/-- Puts a literal under the enum and the value with these names. -/
def addLiteral (t : Entries (Entries String)) (l : (String × String) × String) :
    Entries (Entries String) :=
  putLiteral t l.1.1 l.1.2 l.2

/-- The assignment has a key for the names of the literal. -/
def IsKeyed (e : String × String) (l : (String × String) × String) : Prop :=
  enumKey? e.1 = some l.1 ∧ e.2 = l.2

/-- Literals from a table of keys result in what they result in when they are put one after the
other. -/
theorem putLiterals_ofPairs {keyed : List (String × String)}
    {literals : List ((String × String) × String)} (h : List.Forall₂ IsKeyed keyed literals) :
    putLiterals t (Entries.ofPairs keyed) = .ok (literals.foldl addLiteral t) := by
  rw [putLiterals_eq_ok_iff, lastCounts_putKeyed.foldl_ofPairs]
  constructor
  · intro key hkey
    obtain ⟨e, he, rfl⟩ := List.mem_map.1 ((Entries.mem_keys_update.1 hkey).resolve_left
      List.not_mem_nil)
    obtain ⟨l, -, hl, -⟩ := exists_of_mem_left h he
    exact ⟨l.1, hl⟩
  · induction h generalizing t with
    | nil => rfl
    | @cons e l _ _ hhead _ ih =>
      obtain ⟨hkey, hliteral⟩ := hhead
      have hstep : putKeyed t e = addLiteral t l := by
        rw [show e = (e.1, e.2) from rfl, putKeyed_of_some hkey, hliteral]
        rfl
      rw [List.foldl_cons, List.foldl_cons, hstep, ih]

/-- The literal for a value is the last one that was put for it, or else the one from before. -/
theorem literal?_foldl_addLiteral (literals : List ((String × String) × String))
    (t : Entries (Entries String)) (enum value : String) :
    literal? (literals.foldl addLiteral t) enum value =
      (literals.reverse.lookup (enum, value)).or (literal? t enum value) := by
  induction literals generalizing t with
  | nil => rfl
  | cons l literals ih =>
    obtain ⟨names, literal⟩ := l
    rw [List.foldl_cons, ih, List.reverse_cons, List.lookup_append, Option.or_assoc]
    apply congrArg (Option.or _)
    by_cases h : names = (enum, value)
    · subst h
      rw [List.lookup_cons, beq_self_eq_true]
      exact literal?_putLiteral_self
    · have hne : ((enum, value) == names) = false := by simpa using Ne.symm h
      rw [List.lookup_cons, hne]
      exact literal?_putLiteral_of_ne h

/-- An enum for which no literal was put is as before. -/
theorem get?_foldl_addLiteral {literals : List ((String × String) × String)}
    (h : ∀ l ∈ literals, l.1.1 ≠ enum) (t : Entries (Entries String)) :
    Entries.get? (literals.foldl addLiteral t) enum = Entries.get? t enum := by
  induction literals generalizing t with
  | nil => rfl
  | cons l literals ih =>
    rw [List.forall_mem_cons] at h
    rw [List.foldl_cons, ih h.2]
    exact Entries.get?_put_of_ne t _ h.1

end SdlPhp.Arguments
