import Mathlib.Data.List.Basic
import Mathlib.Data.List.DropRight
import SdlPhp.Text.Indent

/-!
# Cutting what was joined

A text that was joined from pieces is cut into the same pieces again, as long as none of them holds
the separator. Everything follows from one equation for a text that is cut at a separator in it
(`pieces_append_sep`).
-/

namespace SdlPhp.Text

variable {sep : Char}

theorem pieces_of_not_mem {cs : List Char} (h : sep ∉ cs) : pieces sep cs = [cs] := by
  induction cs with
  | nil => rfl
  | cons c cs ih =>
    obtain ⟨hc, hcs⟩ := not_or.1 (mt List.mem_cons.2 h)
    rw [pieces, if_neg (Ne.symm hc), ih hcs]

/-- The first separator ends the first piece. -/
theorem pieces_append_sep {cs : List Char} (h : sep ∉ cs) (ds : List Char) :
    pieces sep (cs ++ sep :: ds) = cs :: pieces sep ds := by
  induction cs with
  | nil => exact pieces_cons_sep sep ds
  | cons c cs ih =>
    obtain ⟨hc, hcs⟩ := not_or.1 (mt List.mem_cons.2 h)
    rw [List.cons_append, pieces, if_neg (Ne.symm hc), ih hcs]

/-- Cutting at a separator cuts both sides for themselves. -/
theorem pieces_append (cs ds : List Char) :
    pieces sep (cs ++ sep :: ds) = pieces sep cs ++ pieces sep ds := by
  induction cs with
  | nil => exact pieces_cons_sep sep ds
  | cons c cs ih =>
    by_cases hc : c = sep
    · subst hc
      rw [List.cons_append, pieces_cons_sep, pieces_cons_sep, ih, List.cons_append]
    · obtain ⟨p, ps, hp, hpieces⟩ := pieces_cons_of_ne cs hc
      rw [hp, List.cons_append] at ih
      rw [List.cons_append, pieces, if_neg hc, ih, hpieces, List.cons_append]

/-- What was joined is cut at the joints and then part by part. -/
theorem pieces_join {ps : List (List Char)} (hps : ps ≠ []) :
    pieces sep (join sep ps) = ps.flatMap (pieces sep) := by
  induction ps with
  | nil => exact absurd rfl hps
  | cons p ps ih =>
    cases ps with
    | nil => rw [join_singleton, List.flatMap_singleton]
    | cons q ps =>
      rw [join_cons_cons, pieces_append, ih (List.cons_ne_nil q ps)]
      rfl

/-- What was joined from pieces without the separator is cut into them. -/
theorem pieces_join_of_not_mem {ps : List (List Char)} (hps : ps ≠ []) (h : ∀ p ∈ ps, sep ∉ p) :
    pieces sep (join sep ps) = ps := by
  rw [pieces_join hps, List.flatMap_congr fun p hp => pieces_of_not_mem (h p hp),
    ← List.map_eq_flatMap, List.map_id']

theorem lines_unlines {ls : List (List Char)} (hls : ls ≠ []) (h : ∀ l ∈ ls, '\n' ∉ l) :
    lines (unlines ls) = ls :=
  pieces_join_of_not_mem hls h

theorem head?_join {p : List Char} (hp : p ≠ []) (ps : List (List Char)) :
    (join sep (p :: ps)).head? = p.head? := by
  cases ps with
  | nil => rw [join_singleton]
  | cons q ps => rw [join_cons_cons, List.head?_append_of_ne_nil p hp]

/-- The last piece may have more text behind it. -/
theorem join_append_singleton (sep : Char) (ps : List (List Char)) (p cs : List Char) :
    join sep (ps ++ [p]) ++ cs = join sep (ps ++ [p ++ cs]) := by
  induction ps with
  | nil => rw [List.nil_append, List.nil_append, join_singleton, join_singleton]
  | cons q ps ih =>
    cases ps with
    | nil => simp [join_cons_cons, join_singleton]
    | cons r ps =>
      simp only [List.cons_append] at ih ⊢
      rw [join_cons_cons, join_cons_cons, ← ih, List.append_assoc, List.cons_append]

/-- The first piece may have more text in front of it. -/
theorem append_join_cons (sep : Char) (cs p : List Char) (ps : List (List Char)) :
    cs ++ join sep (p :: ps) = join sep ((cs ++ p) :: ps) := by
  cases ps with
  | nil => rw [join_singleton, join_singleton]
  | cons q ps => rw [join_cons_cons, join_cons_cons, List.append_assoc]

theorem join_append {ps qs : List (List Char)} (hps : ps ≠ []) (hqs : qs ≠ []) :
    join sep (ps ++ qs) = join sep ps ++ sep :: join sep qs := by
  obtain ⟨q, qs, rfl⟩ := List.exists_cons_of_ne_nil hqs
  induction ps with
  | nil => exact absurd rfl hps
  | cons p ps ih =>
    cases ps with
    | nil => rw [List.singleton_append, join_cons_cons, join_singleton]
    | cons r ps =>
      rw [List.cons_append, List.cons_append, join_cons_cons, ← List.cons_append,
        ih (List.cons_ne_nil r ps), join_cons_cons, List.append_assoc, List.cons_append]

/-- Pieces may be joined first, as long as there are any. -/
theorem join_middle {ps : List (List Char)} (hps : ps ≠ []) (before after : List (List Char)) :
    join sep (before ++ join sep ps :: after) = join sep (before ++ (ps ++ after)) := by
  have back : join sep (join sep ps :: after) = join sep (ps ++ after) := by
    cases after with
    | nil => rw [join_singleton, List.append_nil]
    | cons q after => rw [join_cons_cons, join_append hps (List.cons_ne_nil q after)]
  by_cases hbefore : before = []
  · rw [hbefore, List.nil_append, List.nil_append, back]
  · rw [join_append hbefore (List.cons_ne_nil _ _), back,
      join_append hbefore (List.append_ne_nil_of_left_ne_nil hps after)]

/-- Joining what was joined from lists of pieces, where there are any, joins all the pieces. -/
theorem join_join (lists : List (List (List Char))) :
    join sep ((lists.filter (!·.isEmpty)).map (join sep)) = join sep lists.flatten := by
  induction lists with
  | nil => rfl
  | cons ps lists ih =>
    cases ps with
    | nil => exact ih
    | cons p ps =>
      rw [List.filter_cons_of_pos rfl, List.map_cons, List.flatten_cons]
      by_cases hrest : lists.flatten = []
      · have hempty : lists.filter (!·.isEmpty) = [] := by
          rw [List.flatten_eq_nil_iff] at hrest
          rw [List.filter_eq_nil_iff]
          intro ls hls
          simp [hrest ls hls]
        rw [hempty, hrest, List.map_nil, join_singleton, List.append_nil]
      · have hne : (lists.filter (!·.isEmpty)).map (join sep) ≠ [] := by
          intro hnil
          rw [List.map_eq_nil_iff] at hnil
          rw [← List.flatten_filter_not_isEmpty, hnil] at hrest
          exact hrest rfl
        obtain ⟨q, qs, hq⟩ := List.exists_cons_of_ne_nil hne
        rw [join_append (List.cons_ne_nil p ps) hrest, ← ih, hq, join_cons_cons]

theorem mem_join {ps : List (List Char)} {c : Char} (h : c ∈ join sep ps) :
    c = sep ∨ ∃ p ∈ ps, c ∈ p := by
  induction ps with
  | nil => cases h
  | cons p ps ih =>
    cases ps with
    | nil =>
      rw [join_singleton] at h
      exact Or.inr ⟨p, List.mem_cons_self, h⟩
    | cons q ps =>
      rw [join_cons_cons, List.mem_append, List.mem_cons] at h
      rcases h with h | h | h
      · exact Or.inr ⟨p, List.mem_cons_self, h⟩
      · exact Or.inl h
      · rcases ih h with h | ⟨r, hr, h⟩
        · exact Or.inl h
        · exact Or.inr ⟨r, List.mem_cons_of_mem p hr, h⟩

theorem mem_join_of_mem {ps : List (List Char)} {p : List Char} (hp : p ∈ ps) {c : Char}
    (hc : c ∈ p) : c ∈ join sep ps := by
  induction ps with
  | nil => cases hp
  | cons q ps ih =>
    cases ps with
    | nil =>
      rw [join_singleton, ← List.mem_singleton.1 hp]
      exact hc
    | cons r ps =>
      rw [join_cons_cons, List.mem_append]
      rcases List.mem_cons.1 hp with rfl | hp
      · exact .inl hc
      · exact .inr (List.mem_cons_of_mem sep (ih hp))

/-! ## The first separator -/

theorem cutFirst_of_not_mem {cs : List Char} (h : sep ∉ cs) : cutFirst sep cs = (cs, none) := by
  have hall : cs.dropWhile (· ≠ sep) = [] := by
    rw [List.dropWhile_eq_nil_iff]
    intro c hc
    exact decide_eq_true fun heq => h (heq ▸ hc)
  rw [cutFirst, hall]

theorem cutFirst_append_sep {cs : List Char} (h : sep ∉ cs) (ds : List Char) :
    cutFirst sep (cs ++ sep :: ds) = (cs, some ds) := by
  have hne : ∀ c ∈ cs, decide (c ≠ sep) = true :=
    fun c hc => decide_eq_true fun heq => h (heq ▸ hc)
  rw [cutFirst, List.dropWhile_append_of_pos hne, List.takeWhile_append_of_pos hne]
  simp

/-! ## Separators at the end -/

/-- Separators at the end cut off empty pieces. -/
theorem pieces_append_replicate (cs : List Char) (k : Nat) :
    pieces sep (cs ++ List.replicate k sep) = pieces sep cs ++ List.replicate k [] := by
  induction k generalizing cs with
  | zero => simp
  | succ k ih =>
    have hempty := ih []
    rw [List.nil_append] at hempty
    rw [List.replicate_succ, pieces_append, hempty]
    rfl

theorem dropTrailing_eq (sep : Char) (cs : List Char) :
    dropTrailing sep cs = cs.rdropWhile (· == sep) := rfl

theorem pieces_dropTrailing (sep : Char) (cs : List Char) :
    ∃ k, pieces sep cs = pieces sep (dropTrailing sep cs) ++ List.replicate k [] := by
  have htaken : cs.rtakeWhile (· == sep) =
      List.replicate (cs.rtakeWhile (· == sep)).length sep := by
    refine List.eq_replicate_of_mem fun c hc => ?_
    exact beq_iff_eq.1 (List.mem_rtakeWhile_imp (p := (· == sep)) hc)
  refine ⟨(cs.rtakeWhile (· == sep)).length, ?_⟩
  rw [← pieces_append_replicate, ← htaken, dropTrailing_eq, List.rdropWhile_append_rtakeWhile]

/-- But for separators at its end, a text with another character ends in a piece that is not
empty. -/
theorem exists_pieces_dropTrailing {cs : List Char} (h : ∃ c ∈ cs, c ≠ sep) :
    ∃ ps p, p ≠ [] ∧ pieces sep (dropTrailing sep cs) = ps ++ [p] := by
  have hne : cs.rdropWhile (· == sep) ≠ [] := by
    obtain ⟨c, hc, hsep⟩ := h
    exact fun hempty => hsep (beq_iff_eq.1 (List.rdropWhile_eq_nil_iff.1 hempty c hc))
  have hlast := List.rdropWhile_last_not _ _ hne
  rw [dropTrailing_eq, ← List.dropLast_concat_getLast hne]
  generalize (cs.rdropWhile (· == sep)).dropLast = ds,
    (cs.rdropWhile (· == sep)).getLast hne = c at hlast ⊢
  have hpieces := pieces_ne_nil sep ds
  have hsplit := List.dropLast_concat_getLast hpieces
  generalize (pieces sep ds).dropLast = ps, (pieces sep ds).getLast hpieces = p at hsplit
  have not_mem : ∀ q ∈ ps ++ [p ++ [c]], sep ∉ q := by
    have hall : ∀ q ∈ ps ++ [p], sep ∉ q := fun q hq => sep_not_mem_of_mem_pieces (hsplit ▸ hq)
    rw [List.forall_mem_append, List.forall_mem_singleton] at hall ⊢
    refine ⟨hall.1, ?_⟩
    rw [List.mem_append, List.mem_singleton, not_or]
    exact ⟨hall.2, fun hc => hlast (beq_iff_eq.2 hc.symm)⟩
  refine ⟨ps, p ++ [c], by simp, ?_⟩
  rw [← join_pieces sep ds, ← hsplit, join_append_singleton,
    pieces_join_of_not_mem (by simp) not_mem]

/-- Pieces of which the last one is not empty stay without the separators at the end. -/
theorem infix_pieces_dropTrailing {ps : List (List Char)} {p : List Char} (hp : p ≠ [])
    {cs : List Char} (h : ps ++ [p] <:+: pieces sep cs) :
    ps ++ [p] <:+: pieces sep (dropTrailing sep cs) := by
  obtain ⟨k, hk⟩ := pieces_dropTrailing sep cs
  obtain ⟨before, after, hsplit⟩ := h
  rw [hk] at hsplit
  rcases List.append_eq_append_iff.1 hsplit with ⟨rest, hrest, -⟩ | ⟨rest, hrest, hempty⟩
  · exact ⟨before, rest, hrest.symm⟩
  · rcases List.eq_nil_or_concat rest with rfl | ⟨rest, q, rfl⟩
    · exact ⟨before, [], by simpa using hrest⟩
    · have hlast : some p = some q := by simpa using congrArg List.getLast? hrest
      have hq : q ∈ List.replicate k [] := by simp [hempty]
      exact absurd (Option.some.inj hlast |>.trans (List.eq_of_mem_replicate hq)) hp

/-! ## Line ends -/

theorem unifyLineEnds_of_not_mem {cs : List Char} (h : '\r' ∉ cs) : unifyLineEnds cs = cs := by
  induction cs with
  | nil => rfl
  | cons c cs ih =>
    rw [List.mem_cons, not_or] at h
    rw [unifyLineEnds, ih h.2]
    · rintro cs rfl
      exact absurd rfl h.1
    · rintro rfl
      exact absurd rfl h.1

end SdlPhp.Text
