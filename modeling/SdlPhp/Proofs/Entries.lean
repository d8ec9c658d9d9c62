import Mathlib.Data.List.Nodup
import SdlPhp.Entries

/-!
# Tables with distinct keys

What putting the entries of one table into another gives: which keys there are, what stands under
them, and which entries are left under some of the keys. Keys that are put several times may first
be gathered into a table. Main statements: `get?_update`, `LastCounts.foldl_ofPairs`,
`filter_update` and, where no key is in both tables, `update_of_disjoint`.
-/

namespace SdlPhp.Entries

variable {α : Type} {t u : Entries α} {key : String} {value : α}

/-! ## Keys -/

theorem keys_append (t u : Entries α) : keys (t ++ u) = keys t ++ keys u := List.map_append

theorem mem_keys_of_mem {e : String × α} (h : e ∈ t) : e.1 ∈ keys t := List.mem_map_of_mem h

theorem mem_keys_put {other : String} : other ∈ keys (put t key value) ↔
    other = key ∨ other ∈ keys t := by
  by_cases h : key ∈ keys t
  · rw [keys_put_of_mem value h]
    exact ⟨.inr, fun ho => ho.elim (fun he => he ▸ h) id⟩
  · rw [keys_put_of_not_mem value h, List.mem_append, List.mem_singleton, or_comm]

theorem mem_keys_update {other : String} : other ∈ keys (update t u) ↔
    other ∈ keys t ∨ other ∈ keys u := by
  induction u generalizing t with
  | nil => simp [update, keys]
  | cons e u ih =>
    rw [show update t (e :: u) = update (put t e.1 e.2) u from rfl, ih, mem_keys_put,
      show keys (e :: u) = e.1 :: keys u from rfl, List.mem_cons]
    tauto

theorem nodup_keys_put (h : (keys t).Nodup) (key : String) (value : α) :
    (keys (put t key value)).Nodup := by
  by_cases hkey : key ∈ keys t
  · rwa [keys_put_of_mem value hkey]
  · rw [keys_put_of_not_mem value hkey]
    exact List.nodup_append.2 ⟨h, List.nodup_singleton key, fun a ha b hb =>
      fun he => hkey (List.mem_singleton.1 hb ▸ he ▸ ha)⟩

theorem nodup_keys_update (h : (keys t).Nodup) (u : Entries α) : (keys (update t u)).Nodup := by
  induction u generalizing t with
  | nil => exact h
  | cons e u ih => exact ih (nodup_keys_put h e.1 e.2)

/-- New keys come last, in their order. -/
theorem keys_update (hu : (keys u).Nodup) :
    keys (update t u) = keys t ++ (keys u).filter (· ∉ keys t) := by
  induction u generalizing t with
  | nil => simp [update, keys]
  | cons e u ih =>
    have he := List.nodup_cons.1 hu
    rw [show update t (e :: u) = update (put t e.1 e.2) u from rfl, ih he.2,
      show keys (e :: u) = e.1 :: keys u from rfl]
    by_cases hkey : e.1 ∈ keys t
    · rw [keys_put_of_mem e.2 hkey, List.filter_cons_of_neg (by simp [hkey])]
    · rw [keys_put_of_not_mem e.2 hkey, List.filter_cons_of_pos (by simp [hkey]),
        List.append_assoc, List.singleton_append]
      refine congrArg (fun ks => keys t ++ e.1 :: ks) (List.filter_congr fun key hmem => ?_)
      have hne : key ≠ e.1 := fun heq => he.1 (heq ▸ hmem)
      simp [hne]

/-- No entry comes from anywhere else. -/
theorem mem_of_mem_put {e : String × α} (h : e ∈ put t key value) : e = (key, value) ∨ e ∈ t := by
  induction t with
  | nil => exact .inl (List.mem_singleton.1 h)
  | cons d t ih =>
    rw [put] at h
    split at h
    · rename_i hkey
      exact (List.mem_cons.1 h).imp (fun he => hkey ▸ he) (List.mem_cons_of_mem d)
    · rcases List.mem_cons.1 h with rfl | h
      · exact .inr List.mem_cons_self
      · exact (ih h).imp_right (List.mem_cons_of_mem d)

theorem mem_of_mem_update {e : String × α} (h : e ∈ update t u) : e ∈ t ∨ e ∈ u := by
  induction u generalizing t with
  | nil => exact .inl h
  | cons d u ih =>
    rcases ih h with hput | hu
    · exact (mem_of_mem_put hput).elim (fun he => .inr (he ▸ List.mem_cons_self)) .inl
    · exact .inr (List.mem_cons_of_mem d hu)

/-! ## Looking up -/

theorem get?_eq_none_iff : get? t key = none ↔ key ∉ keys t := by
  induction t with
  | nil => simp [get?, keys]
  | cons e t ih =>
    rw [get?, show keys (e :: t) = e.1 :: keys t from rfl, List.mem_cons, not_or, ← ih]
    by_cases h : e.1 = key
    · simp [h]
    · simp [h, Ne.symm h]

theorem exists_get?_of_mem_keys (h : key ∈ keys t) : ∃ value, get? t key = some value :=
  Option.ne_none_iff_exists'.1 fun hnone => get?_eq_none_iff.1 hnone h

theorem mem_of_get?_eq_some (h : get? t key = some value) : (key, value) ∈ t := by
  induction t with
  | nil => cases h
  | cons e t ih =>
    rw [get?] at h
    split at h
    · rename_i hkey
      cases h
      exact hkey ▸ List.mem_cons_self
    · exact List.mem_cons_of_mem e (ih h)

theorem get?_of_mem (hnodup : (keys t).Nodup) {e : String × α} (h : e ∈ t) :
    get? t e.1 = some e.2 := by
  induction t with
  | nil => cases h
  | cons d t ih =>
    have hd := List.nodup_cons.1 hnodup
    rw [get?]
    rcases List.mem_cons.1 h with rfl | h
    · rw [if_pos rfl]
    · have hne : d.1 ≠ e.1 := fun heq => hd.1 (heq ▸ mem_keys_of_mem h)
      rw [if_neg hne, ih hd.2 h]

/-- Putting again what is there changes nothing. -/
theorem put_of_get? (h : get? t key = some value) : put t key value = t := by
  induction t with
  | nil => cases h
  | cons e t ih =>
    rw [get?] at h
    rw [put]
    split at h
    · rename_i hkey
      rw [if_pos hkey, ← Option.some.inj h]
    · rename_i hkey
      rw [if_neg hkey, ih h]

theorem get?_append (t u : Entries α) (key : String) :
    get? (t ++ u) key = (get? t key).or (get? u key) := by
  induction t with
  | nil => rfl
  | cons e t ih =>
    rw [List.cons_append, get?, get?]
    split
    · rfl
    · exact ih

theorem get?_update (hu : (keys u).Nodup) (t : Entries α) (key : String) :
    get? (update t u) key = (get? u key).or (get? t key) := by
  induction u generalizing t with
  | nil => rfl
  | cons e u ih =>
    have he := List.nodup_cons.1 hu
    rw [show update t (e :: u) = update (put t e.1 e.2) u from rfl, ih he.2, get?]
    split
    · rename_i hkey
      rw [get?_eq_none_iff.2 (hkey ▸ he.1), Option.none_or, ← hkey, get?_put_self, Option.some_or]
    · rename_i hkey
      rw [get?_put_of_ne t e.2 hkey]

/-- Tables with the same keys in the same order and the same values under them are the same. -/
theorem ext (hkeys : keys t = keys u) (hnodup : (keys t).Nodup)
    (h : ∀ key ∈ keys t, get? t key = get? u key) : t = u := by
  induction t generalizing u with
  | nil => exact (List.map_eq_nil_iff.1 hkeys.symm).symm
  | cons e t ih =>
    cases u with
    | nil => cases hkeys
    | cons d u =>
      obtain ⟨hkey, hrest⟩ := List.cons.inj hkeys
      have he := List.nodup_cons.1 hnodup
      have hvalue := h e.1 List.mem_cons_self
      simp only [get?, if_true, show d.1 = e.1 from hkey.symm, Option.some.injEq] at hvalue
      rw [Prod.ext_iff.2 ⟨hkey, hvalue⟩, ih hrest he.2 fun key hmem => ?_]
      have := h key (List.mem_cons_of_mem e.1 hmem)
      have hne : e.1 ≠ key := fun heq => he.1 (heq ▸ hmem)
      rwa [get?, get?, if_neg hne, if_neg (show d.1 ≠ key from hkey ▸ hne)] at this

/-! ## Putting a key again -/

theorem put_put_self (t : Entries α) (key : String) (old new : α) :
    put (put t key old) key new = put t key new := by
  induction t with
  | nil => simp [put]
  | cons e t ih =>
    by_cases h : e.1 = key
    · simp [put, h]
    · simp [put, h, ih]

/-- A key that is in its place keeps it, so that another one may be put before or after it. -/
theorem put_comm_of_mem (hkey : key ∈ keys t) {other : String} (h : key ≠ other) (new : α) :
    put (put t other new) key value = put (put t key value) other new := by
  induction t with
  | nil => cases hkey
  | cons e t ih =>
    by_cases he : e.1 = key
    · have hne : e.1 ≠ other := fun heq => h (he.symm.trans heq)
      simp [put, he, h]
    · have hmem : key ∈ keys t := (List.mem_cons.1 hkey).resolve_left fun heq => he heq.symm
      by_cases ho : e.1 = other
      · simp [put, ho, Ne.symm h]
      · simp [put, he, ho, ih hmem]

/-- Of the steps for a key only the last one counts, and it counts in the place of the first one: it
replaces what an earlier one did, and where there was one it may be taken before or after a step for
another key. -/
structure LastCounts {σ : Type} (step : σ → String × α → σ) (Has : σ → String → Prop) : Prop where
  has : ∀ s key value, Has (step s (key, value)) key
  keeps : ∀ s e key, Has s key → Has (step s e) key
  again : ∀ s key old new, step (step s (key, old)) (key, new) = step s (key, new)
  comm : ∀ s key other value new, Has s key → key ≠ other →
    step (step s (other, new)) (key, value) = step (step s (key, value)) (other, new)

theorem lastCounts_put :
    LastCounts (fun (t : Entries α) e => put t e.1 e.2) (fun t key => key ∈ keys t) where
  has _ _ _ := mem_keys_put.2 (.inl rfl)
  keeps _ _ _ h := mem_keys_put.2 (.inr h)
  again := put_put_self
  comm _ _ _ _ _ hkey h := put_comm_of_mem hkey h _

namespace LastCounts

variable {σ : Type} {step : σ → String × α → σ} {Has : σ → String → Prop}

/-- A step for a key that has had one may be taken before steps for other keys. -/
theorem foldl_of_not_mem (h : LastCounts step Has) (hkey : key ∉ keys u) {s : σ} (hs : Has s key) :
    step (u.foldl step s) (key, value) = u.foldl step (step s (key, value)) := by
  induction u generalizing s with
  | nil => rfl
  | cons e u ih =>
    obtain ⟨hne, hrest⟩ := not_or.1 (mt List.mem_cons.2 hkey)
    rw [List.foldl_cons, List.foldl_cons, ih hrest (h.keeps s e key hs),
      h.comm s key e.1 value e.2 hs hne]

theorem foldl_put (h : LastCounts step Has) (hu : (keys u).Nodup) (key : String) (value : α)
    (s : σ) : (put u key value).foldl step s = step (u.foldl step s) (key, value) := by
  induction u generalizing s with
  | nil => rfl
  | cons e u ih =>
    have he := List.nodup_cons.1 hu
    rw [put]
    split
    · rename_i hkey
      subst hkey
      rw [List.foldl_cons, List.foldl_cons,
        h.foldl_of_not_mem he.1 (h.has s e.1 e.2), h.again s e.1 e.2 value]
    · exact ih he.2 (step s e)

/-- Keys that stand several times are gathered into a table that leads to the same. -/
theorem foldl_ofPairs (h : LastCounts step Has) (pairs : List (String × α)) (s : σ) :
    (ofPairs pairs).foldl step s = pairs.foldl step s := by
  have gathered (t : Entries α) (ht : (keys t).Nodup) (s : σ) :
      (update t pairs).foldl step s = pairs.foldl step (t.foldl step s) := by
    induction pairs generalizing t with
    | nil => rfl
    | cons e pairs ih =>
      rw [show update t (e :: pairs) = update (put t e.1 e.2) pairs from rfl,
        ih _ (nodup_keys_put ht e.1 e.2), h.foldl_put ht, List.foldl_cons]
  exact gathered [] List.nodup_nil s

end LastCounts

theorem update_ofPairs (t : Entries α) (pairs : List (String × α)) :
    update t (ofPairs pairs) = update t pairs :=
  lastCounts_put.foldl_ofPairs pairs t

/-- What stands under a key after some entries were put: the last value for it among them, or else
the one from before. -/
theorem get?_update_lookup (t : Entries α) (pairs : List (String × α)) (key : String) :
    get? (update t pairs) key = (pairs.reverse.lookup key).or (get? t key) := by
  induction pairs generalizing t with
  | nil => rfl
  | cons e pairs ih =>
    rw [show update t (e :: pairs) = update (put t e.1 e.2) pairs from rfl, ih,
      List.reverse_cons, List.lookup_append, Option.or_assoc]
    apply congrArg (Option.or _)
    by_cases h : e.1 = key
    · subst h
      rw [get?_put_self, List.lookup_cons, beq_self_eq_true]
      rfl
    · have hne : (key == e.1) = false := by simpa using Ne.symm h
      rw [get?_put_of_ne t e.2 h, List.lookup_cons, hne]
      rfl

/-! ## Tables without a common key -/

theorem put_of_not_mem (h : key ∉ keys t) (value : α) : put t key value = t ++ [(key, value)] := by
  induction t with
  | nil => rfl
  | cons e t ih =>
    have he := not_or.1 (mt List.mem_cons.2 h)
    rw [put, if_neg (Ne.symm he.1), ih he.2, List.cons_append]

theorem update_of_disjoint (hu : (keys u).Nodup) (h : ∀ key ∈ keys u, key ∉ keys t) :
    update t u = t ++ u := by
  induction u generalizing t with
  | nil => exact (List.append_nil t).symm
  | cons e u ih =>
    have he := List.nodup_cons.1 hu
    have hfirst := h e.1 List.mem_cons_self
    rw [show update t (e :: u) = update (put t e.1 e.2) u from rfl, put_of_not_mem hfirst,
      ih he.2 fun key hkey => ?_, List.append_assoc, List.singleton_append]
    rw [keys_append, List.mem_append, not_or]
    exact ⟨h key (List.mem_cons_of_mem e.1 hkey),
      fun hlast => he.1 (List.mem_singleton.1 hlast ▸ hkey)⟩

theorem ofPairs_of_nodup (h : (keys t).Nodup) : ofPairs t = t :=
  update_of_disjoint h fun _ _ => List.not_mem_nil

/-! ## Entries under some of the keys -/

section Filter

variable (p : String → Bool)

theorem filter_put (t : Entries α) (key : String) (value : α) :
    (put t key value).filter (fun e => p e.1) =
      if p key then put (t.filter fun e => p e.1) key value else t.filter fun e => p e.1 := by
  induction t with
  | nil => cases hp : p key <;> simp [put, hp]
  | cons e t ih =>
    by_cases hkey : e.1 = key
    · cases hp : p key <;> simp [put, hkey, hp]
    · cases hp : p key <;> cases he : p e.1 <;> simp [put, hkey, hp, he] at ih ⊢ <;> exact ih

theorem filter_update (t u : Entries α) :
    (update t u).filter (fun e => p e.1) =
      update (t.filter fun e => p e.1) (u.filter fun e => p e.1) := by
  induction u generalizing t with
  | nil => rfl
  | cons e u ih =>
    rw [show update t (e :: u) = update (put t e.1 e.2) u from rfl, ih, filter_put,
      List.filter_cons]
    split <;> rfl

theorem get?_filter (t : Entries α) (key : String) :
    get? (t.filter fun e => p e.1) key = if p key then get? t key else none := by
  induction t with
  | nil => simp [get?]
  | cons e t ih =>
    by_cases hkey : e.1 = key
    · subst hkey
      cases hp : p e.1 <;> simp [get?, hp, ih]
    · cases he : p e.1 <;> simp [get?, he, hkey, ih]

theorem nodup_keys_filter (h : (keys t).Nodup) : (keys (t.filter fun e => p e.1)).Nodup :=
  h.sublist (List.filter_sublist.map Prod.fst)

theorem mem_keys_filter {key : String} :
    key ∈ keys (t.filter fun e => p e.1) ↔ key ∈ keys t ∧ p key = true := by
  simp only [keys, List.mem_map, List.mem_filter]
  constructor
  · rintro ⟨e, ⟨hmem, hp⟩, rfl⟩
    exact ⟨⟨e, hmem, rfl⟩, hp⟩
  · rintro ⟨⟨e, hmem, rfl⟩, hp⟩
    exact ⟨e, ⟨hmem, hp⟩, rfl⟩

end Filter

end SdlPhp.Entries
