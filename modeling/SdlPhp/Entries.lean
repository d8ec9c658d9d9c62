/-!
# Entries

An ordered table: a list of keys with values in the order in which the keys were first put. Putting
a key that is present replaces its value and keeps its place; a new key goes to the end.
-/

namespace SdlPhp

/-- Keys with values, in the order in which the keys were first put. -/
abbrev Entries (α : Type) := List (String × α)

namespace Entries

variable {α β : Type}

def keys (t : Entries α) : List String := t.map Prod.fst

def values (t : Entries α) : List α := t.map Prod.snd

/-- The value of the first entry with this key. -/
def get? : Entries α → String → Option α
  | [], _ => none
  | (k, v) :: t, key => if k = key then some v else get? t key

def getD (t : Entries α) (key : String) (fallback : α) : α := (get? t key).getD fallback

def has (t : Entries α) (key : String) : Bool := (get? t key).isSome

/-- Replaces the value of `key` in its place, or puts the new key last. -/
def put : Entries α → String → α → Entries α
  | [], key, value => [(key, value)]
  | (k, v) :: t, key, value => if k = key then (k, value) :: t else (k, v) :: put t key value

/-- Puts the entries of the second table one after the other. -/
def update (t u : Entries α) : Entries α := u.foldl (fun t e => put t e.1 e.2) t

def erase (t : Entries α) (key : String) : Entries α := t.filter (fun e => e.1 ≠ key)

/-- The table that results from putting the pairs one after the other. -/
def ofPairs (pairs : List (String × α)) : Entries α := update [] pairs

def mapValues (f : α → β) (t : Entries α) : Entries β := t.map fun e => (e.1, f e.2)

/-! ## Looking up -/

theorem get?_put_self (t : Entries α) (key : String) (value : α) :
    get? (put t key value) key = some value := by
  induction t with
  | nil => simp [put, get?]
  | cons e t ih =>
    by_cases h : e.1 = key
    · simp [put, get?, h]
    · simp [put, get?, h, ih]

theorem get?_put_of_ne (t : Entries α) {key other : String} (value : α) (h : key ≠ other) :
    get? (put t key value) other = get? t other := by
  induction t with
  | nil => simp [put, get?, h]
  | cons e t ih =>
    by_cases hk : e.1 = key
    · simp [put, get?, hk, h]
    · by_cases ho : e.1 = other
      · simp [put, get?, ho, Ne.symm h]
      · simp [put, get?, hk, ho, ih]

theorem keys_put_of_mem {t : Entries α} {key : String} (value : α) (h : key ∈ keys t) :
    keys (put t key value) = keys t := by
  induction t with
  | nil => simp [keys] at h
  | cons e t ih =>
    by_cases hk : e.1 = key
    · simp [put, keys, hk]
    · have : key ∈ keys t := by
        simp only [keys, List.map_cons, List.mem_cons] at h
        exact h.resolve_left (fun he => hk he.symm)
      simpa [put, keys, hk] using ih this

theorem keys_put_of_not_mem {t : Entries α} {key : String} (value : α) (h : key ∉ keys t) :
    keys (put t key value) = keys t ++ [key] := by
  induction t with
  | nil => simp [put, keys]
  | cons e t ih =>
    simp only [keys, List.map_cons, List.mem_cons, not_or] at h
    have hk : e.1 ≠ key := fun he => h.1 he.symm
    simpa [put, keys, hk] using ih h.2

end Entries

end SdlPhp
