import SdlPhp.Proofs.Text.Pieces
import SdlPhp.World.Path
import SdlPhp.World.Url

/-!
# Texts of paths

The text of a path is read as this path again (`ofText_text`). It is no address of the network, as
only the two slashes of a root stand next to each other (`isUrl_text`).
-/

namespace SdlPhp

namespace Path

variable {p : Path} {s part : String}

/-- What stands between the slashes of a path and is not dropped. -/
structure IsPart (part : String) : Prop where
  ne_empty : part ≠ ""
  ne_dot : part ≠ "."
  slash : '/' ∉ part.toList

instance (part : String) : Decidable (IsPart part) :=
  decidable_of_iff (_ ∧ _ ∧ _) ⟨fun h => ⟨h.1, h.2.1, h.2.2⟩, fun h => ⟨h.1, h.2, h.3⟩⟩

theorem isPart_of_mem (h : part ∈ (ofText s).parts) : IsPart part where
  ne_empty := (mem_parts_ofText h).1
  ne_dot := (mem_parts_ofText h).2
  slash := by
    obtain ⟨cs, hcs, rfl⟩ := List.mem_map.1 h
    rw [String.toList_ofList]
    exact Text.sep_not_mem_of_mem_pieces (List.mem_filter.1 hcs).1

theorem IsPart.not_isIdle (h : IsPart part) : isIdle part.toList = false := by
  rw [isIdle, Bool.or_eq_false_iff, List.isEmpty_eq_false_iff, beq_eq_false_iff_ne]
  constructor
  · exact fun hnil => h.ne_empty (String.toList_eq_nil_iff.1 hnil)
  · exact fun hdot => h.ne_dot (String.toList_inj.1 hdot)

/-- The parts, with slashes between them. -/
def joined (p : Path) : List Char := Text.join '/' (p.parts.map String.toList)

/-- There are parts, and each of them is one. -/
structure HasParts (p : Path) : Prop where
  ne_nil : p.parts ≠ []
  isPart : ∀ part ∈ p.parts, IsPart part

theorem HasParts.pieces_joined (h : p.HasParts) :
    Text.pieces '/' p.joined = p.parts.map String.toList :=
  Text.pieces_join_of_not_mem (by simpa using h.ne_nil)
    (List.forall_mem_map.2 fun part hpart => (h.isPart part hpart).slash)

theorem HasParts.exists_joined (h : p.HasParts) : ∃ c cs, p.joined = c :: cs ∧ c ≠ '/' := by
  obtain ⟨part, parts, hparts⟩ := List.exists_cons_of_ne_nil h.ne_nil
  have isPart := h.isPart part (hparts ▸ List.mem_cons_self)
  obtain ⟨c, cs, hcs⟩ := List.exists_cons_of_ne_nil fun hnil =>
    isPart.ne_empty (String.toList_eq_nil_iff.1 hnil)
  have hhead : p.joined.head? = some c := by
    rw [joined, hparts, List.map_cons, Text.head?_join (hcs ▸ List.cons_ne_nil c cs), hcs]
    rfl
  obtain ⟨rest, hrest⟩ := List.head?_eq_some_iff.1 hhead
  refine ⟨c, rest, hrest, fun hc => isPart.slash ?_⟩
  rw [hcs, hc]
  exact List.mem_cons_self

theorem HasParts.toList_text (h : p.HasParts) :
    p.text.toList = p.root.text.toList ++ p.joined := by
  have htoList : (p.root.text ++ "/".intercalate p.parts).toList =
      p.root.text.toList ++ p.joined := by
    rw [String.toList_append, String.toList_intercalate]
    rfl
  rw [text, if_neg, htoList]
  intro hempty
  rw [String.isEmpty_iff, ← String.toList_eq_nil_iff, htoList, List.append_eq_nil_iff] at hempty
  obtain ⟨c, cs, hcs, -⟩ := h.exists_joined
  rw [hcs] at hempty
  exact List.cons_ne_nil c cs hempty.2

theorem rootOf_append {c : Char} (hc : c ≠ '/') (root : PathRoot) (cs : List Char) :
    rootOf (root.text.toList ++ c :: cs) = root := by
  cases root with
  | relative => simp [PathRoot.text, rootOf, hc]
  | slash => simp [PathRoot.text, rootOf, hc]
  | doubleSlash => simp [PathRoot.text, rootOf, hc]

/-- Slashes in front only make for empty pieces. -/
theorem pieces_root_append (root : PathRoot) (cs : List Char) :
    ∃ k, Text.pieces '/' (root.text.toList ++ cs) = List.replicate k [] ++ Text.pieces '/' cs := by
  cases root with
  | relative => exact ⟨0, rfl⟩
  | slash => exact ⟨1, Text.pieces_cons_sep '/' cs⟩
  | doubleSlash =>
    refine ⟨2, (Text.pieces_cons_sep '/' _).trans ?_⟩
    exact congrArg (List.cons []) (Text.pieces_cons_sep '/' cs)

/-- The text of a path is read as the path. -/
theorem HasParts.ofText_text (h : p.HasParts) : ofText p.text = p := by
  obtain ⟨c, cs, hcs, hc⟩ := h.exists_joined
  obtain ⟨k, hk⟩ := pieces_root_append p.root p.joined
  have root : rootOf p.text.toList = p.root := by
    rw [h.toList_text, hcs, rootOf_append hc]
  have kept : (p.parts.map String.toList).filter (!isIdle ·) = p.parts.map String.toList := by
    refine List.filter_eq_self.2 (List.forall_mem_map.2 fun part hpart => ?_)
    rw [(h.isPart part hpart).not_isIdle]
    rfl
  have parts : ((Text.pieces '/' p.text.toList).filter (!isIdle ·)).map String.ofList = p.parts := by
    rw [h.toList_text, hk, h.pieces_joined, List.filter_append, List.filter_replicate_of_neg, kept]
    · simp
    · decide
  rw [ofText, root, parts]

/-- Only a root has two slashes next to each other. -/
theorem HasParts.not_infix_text (h : p.HasParts) (hroot : p.root ≠ .doubleSlash) :
    ¬ ['/', '/'] <:+: p.text.toList := by
  rintro ⟨front, back, htext⟩
  have empty_mem : [] ∈ (Text.pieces '/' p.text.toList).tail := by
    rw [← htext, List.append_assoc, List.cons_append, Text.pieces_append, List.singleton_append,
      Text.pieces_cons_sep, List.tail_append_of_ne_nil (Text.pieces_ne_nil '/' front)]
    exact List.mem_append_right _ List.mem_cons_self
  have no_part : [] ∉ p.parts.map String.toList := by
    intro hmem
    obtain ⟨part, hpart, hnil⟩ := List.mem_map.1 hmem
    exact (h.isPart part hpart).ne_empty (String.toList_eq_nil_iff.1 hnil)
  rw [h.toList_text] at empty_mem
  cases hp : p.root with
  | relative =>
    rw [hp, show PathRoot.relative.text.toList ++ p.joined = p.joined from rfl,
      h.pieces_joined] at empty_mem
    exact no_part (List.mem_of_mem_tail empty_mem)
  | slash =>
    rw [hp, show PathRoot.slash.text.toList ++ p.joined = '/' :: p.joined from rfl,
      Text.pieces_cons_sep, h.pieces_joined] at empty_mem
    exact no_part empty_mem
  | doubleSlash => exact hroot hp

end Path

/-! ## Addresses -/

namespace Url

theorem splitScheme_suffix (cs : List Char) : (splitScheme cs).2 <:+ cs := by
  unfold splitScheme Text.cutFirst
  cases hrest : cs.dropWhile (· ≠ ':') with
  | nil => exact List.suffix_rfl
  | cons c rest =>
    dsimp only
    split
    · exact (List.suffix_cons c rest).trans (hrest ▸ List.dropWhile_suffix _)
    · exact List.suffix_rfl

theorem hostOf_of_not_prefix {cs : List Char} (h : ¬ ['/', '/'] <+: cs) : hostOf cs = [] := by
  unfold hostOf
  split
  · exact absurd ⟨_, rfl⟩ h
  · rfl

/-- A text without two slashes next to each other has no host. -/
theorem isUrl_of_not_infix {s : String} (hslashes : ¬ ['/', '/'] <:+: s.toList)
    (hkept : s.toList.any isIgnored = false) : isUrl s = .ok false := by
  have hclean : clean s.toList <:+ s.toList := by
    rw [clean, List.filter_eq_self.2]
    · exact List.dropWhile_suffix _
    · intro c hc
      rw [List.any_eq_false] at hkept
      simpa using hkept c ((List.dropWhile_suffix _).subset hc)
  have hhost : hostOf (splitScheme (clean s.toList)).2 = [] := by
    refine hostOf_of_not_prefix fun hfront => hslashes ?_
    exact hfront.isInfix.trans ((splitScheme_suffix _).trans hclean).isInfix
  have hfault : hostFault? [] = none := rfl
  simp only [isUrl, hhost, hfault, List.isEmpty_nil, Bool.not_true, Bool.and_false]

end Url

theorem Path.HasParts.isUrl_text {p : Path} (h : p.HasParts) (hroot : p.root ≠ .doubleSlash)
    (hkept : ∀ part ∈ p.parts, part.toList.any Url.isIgnored = false) :
    Url.isUrl p.text = .ok false := by
  refine Url.isUrl_of_not_infix (h.not_infix_text hroot) ?_
  rw [h.toList_text, List.any_append, Bool.or_eq_false_iff]
  constructor
  · cases p.root <;> decide
  · rw [List.any_eq_false]
    intro c hc
    rcases Text.mem_join hc with rfl | ⟨cs, hcs, hmem⟩
    · decide
    · obtain ⟨part, hpart, rfl⟩ := List.mem_map.1 hcs
      exact List.any_eq_false.1 (hkept part hpart) c hmem

end SdlPhp
