import SdlPhp.Proofs.Text.Whole
import SdlPhp.Proofs.World.Listing

/-!
# Winding paths

A path may lead into a directory and out of it again as often as it likes. It leads to where it would
lead without the turns, until they make it longer than a path can be (`locate_winding`).
-/

namespace SdlPhp.World

/-- Into a directory, out of it and into it again, and so on, and then further. -/
def windingParts (way : List String) : Nat → List String
  | 0 => "d" :: way
  | turns + 1 => "d" :: ".." :: windingParts way turns

def winding (turns : Nat) (way : List String) : Path := ⟨.relative, windingParts way turns⟩

theorem append_winding (turns : Nat) (way : List String) :
    (winding turns []).append way = winding turns way := by
  have parts : windingParts [] turns ++ way = windingParts way turns := by
    induction turns with
    | zero => rfl
    | succ turns ih => rw [windingParts, List.cons_append, List.cons_append, ih, windingParts]
  rw [Path.append, winding, parts, winding]

theorem forall_mem_windingParts {P : String → Prop} (hd : P "d") (hup : P "..") {way : List String}
    (hway : ∀ n ∈ way, P n) (turns : Nat) : ∀ part ∈ windingParts way turns, P part := by
  induction turns with
  | zero => exact List.forall_mem_cons.2 ⟨hd, hway⟩
  | succ turns ih => exact List.forall_mem_cons.2 ⟨hd, List.forall_mem_cons.2 ⟨hup, ih⟩⟩

/-- A character of one byte other than zero. -/
def isShort (c : Char) : Bool := c.utf8Size == 1 && c != '\x00'

/-- Each name is one part of a path, all of short characters. -/
def PlainParts (way : List String) : Prop :=
  ∀ n ∈ way, Path.IsPart n ∧ n.toList.all isShort = true

instance (way : List String) : Decidable (PlainParts way) :=
  inferInstanceAs (Decidable (∀ n ∈ way, _ ∧ n.toList.all isShort = true))

theorem hasParts_winding {way : List String} (hway : PlainParts way) (turns : Nat) :
    (winding turns way).HasParts where
  ne_nil := by cases turns <;> exact List.cons_ne_nil _ _
  isPart := forall_mem_windingParts ⟨by decide, by decide, by decide⟩
    ⟨by decide, by decide, by decide⟩ (fun n hn => (hway n hn).1) turns

theorem length_joined_winding (turns : Nat) (way : List String) :
    (winding turns way).joined.length = 5 * turns + (winding 0 way).joined.length := by
  induction turns with
  | zero => rw [Nat.mul_zero, Nat.zero_add]
  | succ turns ih =>
    obtain ⟨rest, hrest⟩ : ∃ rest, windingParts way turns = "d" :: rest := by
      cases turns <;> exact ⟨_, rfl⟩
    have turn : (winding (turns + 1) way).joined =
        "d/../".toList ++ (winding turns way).joined := by
      rw [winding, winding, windingParts, hrest]
      rfl
    have five : "d/../".toList.length = 5 := by decide
    rw [turn, List.length_append, ih, five]
    omega

/-- A text of characters of one byte each has as many bytes as characters. -/
theorem nameSize?_of_utf8Size {s : String} (h : ∀ c ∈ s.toList, c.utf8Size = 1) :
    nameSize? s = some s.toList.length := by
  have hmark : Text.mark ∉ s.toList := fun hmem => absurd (h _ hmem) (by decide)
  have points : Text.codePoints s.toList = s.toList.map .char := by
    rw [← Text.codePoints_ofChars, Text.ofChars_of_not_mem hmark]
  have sizes (cs : List Char) (hcs : ∀ c ∈ cs, c.utf8Size = 1) :
      (cs.map .char).mapM pointSize? = some (List.replicate cs.length 1) := by
    induction cs with
    | nil => rfl
    | cons c cs ih =>
      rw [List.forall_mem_cons] at hcs
      rw [List.map_cons, List.mapM_cons, ih hcs.2, pointSize?, hcs.1]
      rfl
  rw [nameSize?, points, sizes s.toList h, Option.map_some, ← List.sum_eq_foldl_nat,
    List.sum_replicate_nat, Nat.mul_one]

theorem nameSize?_winding {way : List String} (hway : PlainParts way) (turns : Nat) :
    nameSize? (winding turns way).text =
      some (5 * turns + (winding 0 way).joined.length) := by
  have htext : (winding turns way).text.toList = (winding turns way).joined :=
    (hasParts_winding hway turns).toList_text
  rw [nameSize?_of_utf8Size, htext, length_joined_winding]
  rw [htext]
  intro c hc
  rcases Text.mem_join hc with rfl | ⟨cs, hcs, hmem⟩
  · decide
  · obtain ⟨part, hpart, rfl⟩ := List.mem_map.1 hcs
    have hshort : part.toList.all isShort = true :=
      forall_mem_windingParts (P := fun part => part.toList.all isShort = true) (by decide)
        (by decide) (fun n hn => (hway n hn).2) turns part hpart
    exact beq_iff_eq.1 (Bool.and_eq_true_iff.1 (List.all_eq_true.1 hshort c hmem)).1

theorem foldlM_winding {w : World} (hd : w.isDirectoryAt ["d"] = true) (turns : Nat)
    (way : List String) : (windingParts way turns).foldlM w.step [] = way.foldlM w.step ["d"] := by
  have enter : w.step [] "d" = .ok ["d"] := rfl
  have leave : w.step ["d"] ".." = .ok [] := by
    rw [step, if_pos hd]
    rfl
  induction turns with
  | zero =>
    rw [windingParts, List.foldlM_cons, enter]
    rfl
  | succ turns ih =>
    rw [windingParts, List.foldlM_cons, enter, ← ih]
    change (w.step ["d"] ".." >>= fun place => (windingParts way turns).foldlM w.step place) = _
    rw [leave]
    rfl

/-- Turns on the way do not change where it leads, but make the path too long in the end. -/
theorem locate_winding {w : World} (hd : w.isDirectoryAt ["d"] = true) {way : List String}
    (hway : PlainParts way) (turns : Nat) :
    w.locate (winding turns way) =
      if longestPath < 5 * turns + (winding 0 way).joined.length then .error .nameTooLong
      else way.foldlM w.step ["d"] := by
  have hnull : (winding turns way).parts.any (·.toList.contains '\x00') = false := by
    rw [List.any_eq_false]
    exact forall_mem_windingParts (by decide) (by decide)
      (fun n hn hc => absurd (List.all_eq_true.1 (hway n hn).2 _ (List.contains_iff_mem.1 hc))
        (by decide)) turns
  rw [locate, nameSize?_winding hway]
  simp only [hnull]
  rw [← foldlM_winding hd turns way]
  rfl

/-- What is behind a winding path is too long together with it, or where it is without the turns. -/
theorem locate_append_winding {w : World} (hd : w.isDirectoryAt ["d"] = true) {way : List String}
    (hway : PlainParts way) {turns length : Nat}
    (hlength : (winding 0 way).joined.length = length) :
    w.locate ((winding turns []).append way) =
      if longestPath < 5 * turns + length then .error .nameTooLong
      else way.foldlM w.step ["d"] := by
  rw [append_winding, locate_winding hd hway, hlength]

theorem isUrl_winding {way : List String} (hway : PlainParts way)
    (hkept : ∀ n ∈ way, n.toList.any Url.isIgnored = false) (turns : Nat) :
    Url.isUrl (winding turns way).text = .ok false :=
  (hasParts_winding hway turns).isUrl_text nofun
    (forall_mem_windingParts (by decide) (by decide) hkept turns)

section Short

variable {w : World} {turns : Nat} (hd : w.isDirectoryAt ["d"] = true)
  (hturns : 5 * turns + 1 ≤ longestPath)

include hd hturns

theorem locate_winding_nil : w.locate (winding turns []) = .ok ["d"] := by
  have hlength : (winding 0 []).joined.length = 1 := by decide
  rw [locate_winding hd (by decide), hlength, if_neg (Nat.not_lt.2 hturns)]
  rfl

theorem isDirectory_winding : w.isDirectory (winding turns []) = .ok true := by
  rw [isDirectory, holdsAt, locate_winding_nil hd hturns]
  exact congrArg Except.ok hd

/-- What is listed at the end of the path stands below it. -/
theorem pathsBelow_winding (places : List Place) :
    w.pathsBelow (winding turns []) places =
      (places.filterMap (below? ["d"])).map (winding turns []).append :=
  pathsBelow_eq (locate_winding_nil hd hturns) rfl places

theorem filesBelow_winding_perm : (w.filesBelow (winding turns [])).Perm
    (((w.files.map Prod.fst).filterMap (below? ["d"])).map (winding turns []).append) := by
  rw [← pathsBelow_winding hd hturns]
  exact List.mergeSort_perm _ _

end Short

end SdlPhp.World
