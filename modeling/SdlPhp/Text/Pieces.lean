/-!
# Pieces of a text

A text is cut at every occurrence of one character, and the pieces are put together again. Main
statements: there is always at least one piece, no piece holds the separator, and joining the
pieces gives the text back.
-/

namespace SdlPhp.Text

/-- The pieces between the occurrences of `sep`, empty ones included. -/
def pieces (sep : Char) : List Char → List (List Char)
  | [] => [[]]
  | c :: cs =>
    if c = sep then [] :: pieces sep cs
    else
      match pieces sep cs with
      | [] => [[c]]
      | p :: ps => (c :: p) :: ps

/-- The lines of a text; only the line feed ends a line. -/
def lines (cs : List Char) : List (List Char) := pieces '\n' cs

/-- The pieces with the separator between them. -/
def join (sep : Char) (ps : List (List Char)) : List Char := [sep].intercalate ps

def unlines (ls : List (List Char)) : List Char := join '\n' ls

/-- What stands before the first occurrence of `sep` and, if there is one, what follows it. -/
def cutFirst (sep : Char) (cs : List Char) : List Char × Option (List Char) :=
  match cs.dropWhile (· ≠ sep) with
  | [] => (cs, none)
  | _ :: rest => (cs.takeWhile (· ≠ sep), some rest)

/-- Writes every line end as a line feed. -/
def unifyLineEnds : List Char → List Char
  | [] => []
  | '\r' :: '\n' :: cs => '\n' :: unifyLineEnds cs
  | '\r' :: cs => '\n' :: unifyLineEnds cs
  | c :: cs => c :: unifyLineEnds cs

/-! ## Cutting and joining -/

theorem pieces_ne_nil (sep : Char) (cs : List Char) : pieces sep cs ≠ [] := by
  induction cs with
  | nil => simp [pieces]
  | cons c cs ih =>
    by_cases h : c = sep
    · simp [pieces, h]
    · cases hp : pieces sep cs with
      | nil => exact absurd hp ih
      | cons p ps => simp [pieces, h, hp]

theorem pieces_cons_sep (sep : Char) (cs : List Char) :
    pieces sep (sep :: cs) = [] :: pieces sep cs := by
  simp [pieces]

theorem pieces_cons_of_ne {sep c : Char} (cs : List Char) (h : c ≠ sep) :
    ∃ p ps, pieces sep cs = p :: ps ∧ pieces sep (c :: cs) = (c :: p) :: ps := by
  cases hp : pieces sep cs with
  | nil => exact absurd hp (pieces_ne_nil sep cs)
  | cons p ps => exact ⟨p, ps, rfl, by simp [pieces, h, hp]⟩

theorem join_cons_cons (sep : Char) (p q : List Char) (ps : List (List Char)) :
    join sep (p :: q :: ps) = p ++ sep :: join sep (q :: ps) := by
  simp [join, List.intercalate, List.intersperse]

theorem join_singleton (sep : Char) (p : List Char) : join sep [p] = p := by
  simp [join, List.intercalate, List.intersperse]

theorem join_pieces (sep : Char) (cs : List Char) : join sep (pieces sep cs) = cs := by
  induction cs with
  | nil => simp [pieces, join_singleton]
  | cons c cs ih =>
    by_cases h : c = sep
    · subst h
      cases hp : pieces c cs with
      | nil => exact absurd hp (pieces_ne_nil c cs)
      | cons p ps =>
        rw [pieces_cons_sep, hp, join_cons_cons, ← hp, ih]
        rfl
    · obtain ⟨p, ps, hp, hc⟩ := pieces_cons_of_ne cs h
      rw [hc]
      rw [hp] at ih
      cases ps with
      | nil => rw [join_singleton] at ih ⊢; rw [ih]
      | cons q qs => rw [join_cons_cons] at ih ⊢; rw [List.cons_append, ih]

theorem sep_not_mem_of_mem_pieces {sep : Char} {cs p : List Char} (h : p ∈ pieces sep cs) :
    sep ∉ p := by
  induction cs generalizing p with
  | nil => simp [pieces] at h; simp [h]
  | cons c cs ih =>
    by_cases hc : c = sep
    · subst hc
      rw [pieces_cons_sep, List.mem_cons] at h
      rcases h with rfl | h
      · simp
      · exact ih h
    · obtain ⟨q, qs, hq, hc'⟩ := pieces_cons_of_ne cs hc
      rw [hc', List.mem_cons] at h
      rcases h with rfl | h
      · have := ih (p := q) (by simp [hq])
        simp [this, Ne.symm hc]
      · exact ih (by simp [hq, h])

end SdlPhp.Text
