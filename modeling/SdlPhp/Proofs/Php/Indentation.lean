import SdlPhp.Proofs.Attempt
import SdlPhp.Proofs.Php.Nesting
import SdlPhp.Proofs.Text.Indent

/-!
# Indentation of declarations

Methods and nested declarations are moved in by one indent after the margin of their text is taken
off. Each of them ends in a line with nothing but the closing brace (`Closed`), so that there is no
margin to take off, whatever stands in their other lines, and the lines of a declaration are those
of its parts, one by one (`Declaration.lines_textWith`). Down a path of nested declarations the
indents add up (`Path.infix_lines`). Main statement: `indented_by_depth`.
-/

namespace SdlPhp.Php

open Attempt
open Text (apart blankHollow dedentLines dropTrailing indentLine lines shift)

variable {pre s : String} {d : Declaration} {m : Method} {texts : List String}

/-! ## Closed texts -/

/-- A line of the text is an unindented closing brace. -/
def Closed (s : String) : Prop := ['}'] ∈ lines s.toList

/-- No line of a closed text loses anything with the margin, but for lines of spaces and tabs
alone. -/
theorem Closed.dedentLines (h : Closed s) :
    dedentLines (lines s.toList) = (lines s.toList).map blankHollow :=
  Text.dedentLines_of_mem h (by decide) (by decide)

theorem Closed.lines_reindentBy (h : Closed s) (hpre : '\n' ∉ pre.toList) :
    lines (Text.reindentBy pre s).toList = (lines s.toList).map (shift pre.toList) := by
  unfold Text.reindentBy
  rw [String.toList_ofList]
  exact Text.lines_reindent hpre h (by decide) (by decide)

theorem Closed.intercalate (hmem : s ∈ texts) (h : Closed s) :
    Closed ("\n\n".intercalate texts) := by
  unfold Closed
  rw [Text.lines_apart (List.ne_nil_of_mem hmem)]
  have hlines : lines s.toList ∈ texts.map fun s => lines s.toList := List.mem_map_of_mem hmem
  exact (Text.infix_apart hlines).subset h

/-! ## Parts between the braces -/

/-- The lines of a part; an empty one has none. -/
def partLines (part : String) : List (List Char) :=
  if part.isEmpty then [] else lines part.toList

/-- A part with a closing brace in it, moved in or not, has lines. -/
theorem partLines_of_mem (pre : List Char) (h : shift pre ['}'] ∈ lines s.toList) :
    partLines s = lines s.toList := by
  have hne : s.isEmpty ≠ true := by
    intro hempty
    rw [String.isEmpty_iff] at hempty
    subst hempty
    rw [Text.shift_of_not_blank pre (by decide)] at h
    exact List.append_ne_nil_of_right_ne_nil pre (List.cons_ne_nil '}' [])
      (List.mem_singleton.1 h)
  unfold partLines
  rw [if_neg hne]

theorem flatMap_partLines (parts : List String) :
    ((parts.filter (!·.isEmpty)).map String.toList).flatMap lines = parts.flatMap partLines := by
  induction parts with
  | nil => rfl
  | cons part parts ih =>
    by_cases h : part.isEmpty = true
    · rw [List.filter_cons_of_neg (by simp [h]), ih, List.flatMap_cons, partLines, if_pos h,
        List.nil_append]
    · rw [List.filter_cons_of_pos (by simp [h]), List.map_cons, List.flatMap_cons, ih,
        List.flatMap_cons, partLines, if_neg h]

/-- The lines of a closed text that is moved in. -/
theorem Closed.partLines_reindentBy (h : Closed s) (hpre : '\n' ∉ pre.toList) :
    partLines (Text.reindentBy pre s) = (lines s.toList).map (shift pre.toList) := by
  have hlines := h.lines_reindentBy hpre
  rw [← hlines]
  apply partLines_of_mem pre.toList
  rw [hlines]
  exact List.mem_map_of_mem h

/-- The lines of closed texts each of which is moved in for itself. -/
theorem lines_intercalate_reindentBy (hpre : '\n' ∉ pre.toList) (hne : texts ≠ [])
    (h : ∀ s ∈ texts, Closed s) :
    lines ("\n\n".intercalate (texts.map (Text.reindentBy pre))).toList =
      apart (texts.map fun s => (lines s.toList).map (shift pre.toList)) := by
  have hmoved : texts.map (Text.reindentBy pre) ≠ [] := by
    rw [ne_eq, List.map_eq_nil_iff]
    exact hne
  have each : ∀ s ∈ texts, lines (Text.reindentBy pre s).toList =
      (lines s.toList).map (shift pre.toList) := by
    intro s hs
    exact (h s hs).lines_reindentBy hpre
  rw [Text.lines_apart hmoved, List.map_map, Function.comp_def, List.map_congr_left each]

theorem partLines_intercalate (hpre : '\n' ∉ pre.toList) (h : ∀ s ∈ texts, Closed s) :
    partLines ("\n\n".intercalate (texts.map (Text.reindentBy pre))) =
      apart (texts.map fun s => (lines s.toList).map (shift pre.toList)) := by
  by_cases hne : texts = []
  · subst hne
    simp [partLines, apart]
  · have hlines := lines_intercalate_reindentBy hpre hne h
    obtain ⟨s, hs⟩ := List.exists_mem_of_ne_nil texts hne
    have hbrace : shift pre.toList ['}'] ∈ (lines s.toList).map (shift pre.toList) :=
      List.mem_map_of_mem (h s hs)
    rw [← hlines]
    apply partLines_of_mem pre.toList
    rw [hlines]
    exact (Text.infix_apart (List.mem_map_of_mem hs)).subset hbrace

/-! ## Methods -/

namespace Method

/-- The first line or lines of a method, up to the opening brace. -/
def opening (m : Method) : String :=
  m.signature ++ "(" ++ ",".intercalate (m.parameters.map Member.text) ++ ") \x7b"

theorem lines_text (h : '\n' ∉ pre.toList) (m : Method) :
    lines (m.text pre).toList =
      lines m.opening.toList ++
        (lines m.implementation.toList).map (indentLine pre.toList) ++ [['}']] := by
  have htext : (m.text pre).toList =
      m.opening.toList ++ '\n' ::
        (Text.indentChars pre.toList m.implementation.toList ++ '\n' :: ['}']) := by
    simp [text, opening, Text.indentBy]
  rw [htext, lines, Text.pieces_append, Text.pieces_append, ← List.append_assoc,
    ← Text.lines_indentChars h]
  rfl

theorem closed_text (h : '\n' ∉ pre.toList) (m : Method) : Closed (m.text pre) := by
  unfold Closed
  rw [lines_text h]
  exact List.mem_append_right _ (List.mem_singleton_self _)

end Method

/-! ## Declarations -/

/-- The text without the line feeds at its end. -/
def bare (s : String) : String := String.ofList (dropTrailing '\n' s.toList)

namespace Declaration

/-- What stands before the parts, up to the opening brace. -/
def opening (d : Declaration) : String := d.comment ++ d.header ++ "\x7b"

/-- The part with the members. -/
def memberPart (d : Declaration) : String :=
  if d.members.isEmpty then ""
  else Text.reindentBy d.indent ("\n".intercalate (d.members.map fun m => m.text ++ ";"))

theorem toList_textWith (d : Declaration) (texts : List String) :
    (d.textWith texts).toList =
      Text.unlines ((d.opening :: (d.parts texts).filter (!·.isEmpty)).map String.toList) ++
        ['\n', '}', '\n'] := by
  have hne (ps : List String) : (d.opening :: ps).map String.toList ≠ [] := by simp
  have hbrace : ['\n', '}', '\n'] = '\n' :: Text.join '\n' [['}']] ++ ['\n'] := by decide
  rw [hbrace, Text.unlines, ← List.append_assoc,
    ← Text.join_append (hne _) (List.cons_ne_nil _ _), List.map_cons, List.cons_append, opening,
    String.toList_append, ← Text.append_join_cons]
  simp [textWith, String.toList_intercalate, Text.join]

theorem lines_textWith_parts (d : Declaration) (texts : List String) :
    lines (d.textWith texts).toList =
      lines d.opening.toList ++ (d.parts texts).flatMap partLines ++ [['}'], []] := by
  rw [toList_textWith, lines, Text.pieces_append, Text.unlines, Text.pieces_join (by simp),
    List.map_cons, List.flatMap_cons]
  change lines d.opening.toList ++
    ((List.filter _ _).map String.toList).flatMap lines ++ _ = _
  rw [flatMap_partLines]
  rfl

/-- Of the line feeds at its end a declaration loses the only one, and with it the empty line behind
it. -/
theorem lines_bare_textWith (d : Declaration) (texts : List String) :
    lines (bare (d.textWith texts)).toList = (lines (d.textWith texts).toList).dropLast := by
  rw [bare, String.toList_ofList, toList_textWith]
  generalize Text.unlines _ = cs
  have hdropped : dropTrailing '\n' (cs ++ ['\n', '}', '\n']) = cs ++ ['\n', '}'] := by
    simp [dropTrailing]
  have hlines : lines (cs ++ ['\n', '}', '\n']) = lines (cs ++ ['\n', '}']) ++ [[]] := by
    rw [lines, lines, Text.pieces_append, Text.pieces_append, List.append_assoc]
    rfl
  rw [hdropped, hlines, List.dropLast_concat]

/-- The text of a declaration without the line feed at its end is closed. -/
theorem closed_bare_textWith (d : Declaration) (texts : List String) :
    Closed (bare (d.textWith texts)) := by
  unfold Closed
  rw [lines_bare_textWith, lines_textWith_parts]
  simp

/-- The lines of a declaration as they should be, given the texts of the nested ones: each method
and each nested declaration stands in it line by line, moved in by one indent. -/
def linesWith (d : Declaration) (texts : List String) : List (List Char) :=
  lines d.opening.toList ++ partLines d.memberPart ++
    apart (d.methods.map fun m =>
      (lines (m.text d.indent).toList).map (shift d.indent.toList)) ++
    apart (texts.map fun s => (lines s.toList).dropLast.map (shift d.indent.toList)) ++
    partLines (d.block.getD "") ++ [['}'], []]

/-- The text of all methods of a declaration, not yet moved in. -/
def methodsText (d : Declaration) : String :=
  "\n\n".intercalate (d.methods.map (Method.text d.indent))

theorem closed_methodsText (h : '\n' ∉ d.indent.toList) (hne : d.methods ≠ []) :
    Closed d.methodsText := by
  obtain ⟨m, hm⟩ := List.exists_mem_of_ne_nil d.methods hne
  exact Closed.intercalate (List.mem_map_of_mem hm) (m.closed_text h)

theorem partLines_methods (h : '\n' ∉ d.indent.toList) :
    partLines (if d.methods.isEmpty then "" else Text.reindentBy d.indent d.methodsText) =
      apart (d.methods.map fun m =>
        (lines (m.text d.indent).toList).map (shift d.indent.toList)) := by
  by_cases hne : d.methods = []
  · rw [hne]
    simp [partLines, apart]
  · have hsome : ¬ d.methods.isEmpty = true := by
      rw [List.isEmpty_iff]
      exact hne
    have htexts : d.methods.map (Method.text d.indent) ≠ [] := by
      rw [ne_eq, List.map_eq_nil_iff]
      exact hne
    rw [if_neg hsome, (closed_methodsText h hne).partLines_reindentBy h, methodsText,
      Text.lines_apart htexts, Text.map_shift_apart, List.map_map, List.map_map]
    simp only [Function.comp_def]

/-- The text is that of a declaration. -/
def IsText (s : String) : Prop := ∃ (e : Declaration) (us : List String), s = e.textWith us

theorem partLines_nested (h : '\n' ∉ d.indent.toList) (htexts : ∀ s ∈ texts, IsText s) :
    partLines ("\n\n".intercalate ((texts.map bare).map (Text.reindentBy d.indent))) =
      apart (texts.map fun s => (lines s.toList).dropLast.map (shift d.indent.toList)) := by
  have hclosed : ∀ s ∈ texts.map bare, Closed s := by
    rw [List.forall_mem_map]
    intro s hs
    obtain ⟨e, us, rfl⟩ := htexts s hs
    exact e.closed_bare_textWith us
  have hlines : ∀ s ∈ texts, (lines (bare s).toList).map (shift d.indent.toList) =
      (lines s.toList).dropLast.map (shift d.indent.toList) := by
    intro s hs
    obtain ⟨e, us, rfl⟩ := htexts s hs
    rw [e.lines_bare_textWith us]
  rw [partLines_intercalate h hclosed, List.map_map, Function.comp_def,
    List.map_congr_left hlines]

/-- Each part of a declaration stands in it line by line. -/
theorem lines_textWith (h : '\n' ∉ d.indent.toList) (htexts : ∀ s ∈ texts, IsText s) :
    lines (d.textWith texts).toList = d.linesWith texts := by
  have hparts : d.parts texts =
      [d.memberPart,
        if d.methods.isEmpty then "" else Text.reindentBy d.indent d.methodsText,
        "\n\n".intercalate ((texts.map bare).map (Text.reindentBy d.indent)),
        d.block.getD ""] := by
    rw [List.map_map]
    rfl
  rw [lines_textWith_parts, hparts]
  simp only [List.flatMap_cons, List.flatMap_nil, List.append_nil]
  rw [partLines_methods h, partLines_nested h htexts, linesWith]
  simp only [List.append_assoc]

theorem dropLast_linesWith (d : Declaration) (texts : List String) :
    (d.linesWith texts).dropLast =
      lines d.opening.toList ++ partLines d.memberPart ++
        apart (d.methods.map fun m =>
          (lines (m.text d.indent).toList).map (shift d.indent.toList)) ++
        apart (texts.map fun s => (lines s.toList).dropLast.map (shift d.indent.toList)) ++
        partLines (d.block.getD "") ++ [['}']] := by
  unfold linesWith
  rw [List.dropLast_append_of_ne_nil (List.cons_ne_nil _ _)]
  rfl

theorem infix_of_method (texts : List String) (hm : m ∈ d.methods) :
    (lines (m.text d.indent).toList).map (shift d.indent.toList) <:+:
      (d.linesWith texts).dropLast := by
  rw [dropLast_linesWith, List.append_assoc, List.append_assoc]
  apply (Text.infix_apart (List.mem_map_of_mem hm)).trans
  exact List.infix_append _ _ _

theorem infix_of_nested (d : Declaration) (hs : s ∈ texts) :
    (lines s.toList).dropLast.map (shift d.indent.toList) <:+: (d.linesWith texts).dropLast := by
  rw [dropLast_linesWith, List.append_assoc]
  apply (Text.infix_apart (List.mem_map_of_mem hs)).trans
  exact List.infix_append _ _ _

end Declaration

/-! ## Depth -/

namespace Declarations

variable {t : Declarations} {id outer inner : String} {ds : List Declaration}

/-- The way from one declaration to another one that stands in it: the declarations around that. -/
inductive Path (t : Declarations) : String → List Declaration → String → Prop
  | here (id : String) : Path t id [] id
  | inside {outer next inner : String} {d : Declaration} {ds : List Declaration}
      (hd : t.get? outer = some d) (hnext : next ∈ d.nested) (hpath : Path t next ds inner) :
      Path t outer (d :: ds) inner

/-- A line of the innermost declaration, moved in by each of the declarations around it. -/
def moved (ds : List Declaration) (line : List Char) : List Char :=
  ds.foldr (fun d l => shift d.indent.toList l) line

/-- The indents of some declarations, the outermost one first. -/
def indents (ds : List Declaration) : List Char := ds.flatMap (·.indent.toList)

/-- The indents add up. -/
theorem moved_shift (ds : List Declaration) (pre line : List Char) :
    moved ds (shift pre line) = shift (indents ds ++ pre) line := by
  induction ds with
  | nil => rfl
  | cons d ds ih =>
    have hcons : moved (d :: ds) (shift pre line) =
        shift d.indent.toList (moved ds (shift pre line)) := rfl
    have hindents : indents (d :: ds) = d.indent.toList ++ indents ds := List.flatMap_cons
    rw [hcons, ih, Text.shift_shift, hindents, List.append_assoc]

/-- No indent of the declaration or of those that stand in it holds a line feed. -/
def InLine (t : Declarations) (id : String) : Prop :=
  ∀ j d, t.Reaches id j → t.get? j = some d → '\n' ∉ d.indent.toList

theorem InLine.of_nests (h : t.InLine outer) (hnests : t.Nests outer inner) : t.InLine inner :=
  fun j d hj hd => h j d (.head hnests hj) hd

theorem InLine.of_path (h : t.InLine outer) (hpath : Path t outer ds inner) : t.InLine inner := by
  induction hpath with
  | here _ => exact h
  | inside hd hnext _ ih => exact ih (h.of_nests ⟨_, hd, hnext⟩)

/-- The lines of a declaration with a text are those of its parts. -/
theorem lines_text? {s : String} (h : t.InLine id) (hs : t.text? id = some s) :
    ∃ d texts, t.get? id = some d ∧
      List.Forall₂ (fun j text => t.text? j = some text) d.nested texts ∧
      s = d.textWith texts ∧ lines s.toList = d.linesWith texts := by
  obtain ⟨d, texts, hd, htexts, rfl⟩ := text?_eq_some hs
  refine ⟨d, texts, hd, htexts, rfl, ?_⟩
  apply Declaration.lines_textWith (h id d .refl hd)
  intro text htext
  obtain ⟨j, -, hj⟩ := exists_of_mem_right htexts htext
  obtain ⟨e, us, -, -, rfl⟩ := text?_eq_some hj
  exact ⟨e, us, rfl⟩

/-- A declaration stands in each one around it line by line. -/
theorem Path.infix_lines (hpath : Path t outer ds inner) (h : t.InLine outer) {s : String}
    (hs : t.text? outer = some s) :
    ∃ c, t.text? inner = some c ∧
      (lines c.toList).dropLast.map (moved ds) <:+: (lines s.toList).dropLast := by
  induction hpath generalizing s with
  | here outer =>
    have hkept : (lines s.toList).dropLast.map (moved []) = (lines s.toList).dropLast :=
      List.map_id' _
    refine ⟨s, hs, ?_⟩
    rw [hkept]
  | @inside outer next inner d ds hd hnext _ ih =>
    obtain ⟨d', texts, hd', htexts, -, hlines⟩ := lines_text? h hs
    obtain rfl : d = d' := Option.some.inj (hd.symm.trans hd')
    obtain ⟨text, hmem, htext⟩ := exists_of_mem_left htexts hnext
    obtain ⟨c, hc, hinner⟩ := ih (h.of_nests ⟨d, hd, hnext⟩) htext
    refine ⟨c, hc, ?_⟩
    have hmoved : (lines c.toList).dropLast.map (moved (d :: ds)) =
        ((lines c.toList).dropLast.map (moved ds)).map (shift d.indent.toList) := by
      rw [List.map_map]
      rfl
    rw [hmoved, hlines]
    exact (hinner.map _).trans (d.infix_of_nested hmem)

/-- The body of a method stands in each declaration around it, with the indents of all of them and
that of its own declaration twice. -/
theorem Path.infix_method (hpath : Path t outer ds inner) (h : t.InLine outer) {s : String}
    (hs : t.text? outer = some s) (hd : t.get? inner = some d) (hm : m ∈ d.methods) :
    (lines m.implementation.toList).map
      (shift (indents ds ++ d.indent.toList ++ d.indent.toList)) <:+:
        (lines s.toList).dropLast := by
  obtain ⟨c, hc, hinner⟩ := hpath.infix_lines h hs
  obtain ⟨d', texts, hd', -, -, hlines⟩ := lines_text? (h.of_path hpath) hc
  obtain rfl : d = d' := Option.some.inj (hd.symm.trans hd')
  have hindent : '\n' ∉ d.indent.toList := h.of_path hpath inner d .refl hd
  have hbody : (lines m.implementation.toList).map (indentLine d.indent.toList) <:+:
      lines (m.text d.indent).toList := by
    rw [Method.lines_text hindent]
    exact List.infix_append _ _ _
  have hline (line : List Char) :
      moved ds (shift d.indent.toList (indentLine d.indent.toList line)) =
        shift (indents ds ++ d.indent.toList ++ d.indent.toList) line := by
    rw [Text.shift_indentLine, moved_shift, List.append_assoc]
  have hmoved : (lines m.implementation.toList).map
      (shift (indents ds ++ d.indent.toList ++ d.indent.toList)) =
        (((lines m.implementation.toList).map (indentLine d.indent.toList)).map
          (shift d.indent.toList)).map (moved ds) := by
    rw [List.map_map, List.map_map]
    apply List.map_congr_left
    intro line _
    exact (hline line).symm
  have hdeclaration :=
    (hbody.map (shift d.indent.toList)).trans (Declaration.infix_of_method texts hm)
  rw [← hlines] at hdeclaration
  rw [hmoved]
  exact (hdeclaration.map (moved ds)).trans hinner

/-- Of an acyclic declaration no indent of which holds a line feed, each method and each nested
declaration stands in it line by line, moved in by one indent, as nothing but lines of spaces and
tabs alone loses anything with their margins. At any depth, the indents add up. -/
theorem indented_by_depth (t : Declarations) (id : String) (hground : t.Grounded id)
    (h : t.InLine id) :
    ∃ d texts s, t.get? id = some d ∧ t.text? id = some s ∧
      List.Forall₂ (fun j text => t.text? j = some text) d.nested texts ∧
      dedentLines (lines d.methodsText.toList) = (lines d.methodsText.toList).map blankHollow ∧
      (∀ text ∈ texts, dedentLines (lines (dropTrailing '\n' text.toList)) =
        (lines (dropTrailing '\n' text.toList)).map blankHollow) ∧
      lines s.toList = d.linesWith texts ∧
      ∀ ds inner, Path t id ds inner → ∃ e c, t.get? inner = some e ∧ t.text? inner = some c ∧
        (lines c.toList).dropLast.map (moved ds) <:+: lines s.toList ∧
        ∀ m ∈ e.methods, (lines m.implementation.toList).map
          (shift (indents ds ++ e.indent.toList ++ e.indent.toList)) <:+: lines s.toList := by
  obtain ⟨s, hs⟩ := hground.exists_text
  obtain ⟨d, texts, hd, htexts, -, hlines⟩ := lines_text? h hs
  have hdropped : (lines s.toList).dropLast <:+: lines s.toList := by
    apply List.IsPrefix.isInfix
    exact List.dropLast_prefix _
  refine ⟨d, texts, s, hd, hs, htexts, ?methods, ?nested, hlines, ?path⟩
  case methods =>
    by_cases hne : d.methods = []
    · have hnone : d.methodsText = "" := by
        rw [Declaration.methodsText, hne]
        rfl
      rw [hnone]
      decide
    · exact (d.closed_methodsText (h id d .refl hd) hne).dedentLines
  case nested =>
    intro text htext
    obtain ⟨j, -, hj⟩ := exists_of_mem_right htexts htext
    obtain ⟨e, us, -, -, rfl⟩ := text?_eq_some hj
    have hkept := (e.closed_bare_textWith us).dedentLines
    rwa [bare, String.toList_ofList] at hkept
  case path =>
    intro ds inner hpath
    obtain ⟨c, hc, hinner⟩ := hpath.infix_lines h hs
    obtain ⟨e, -, he, -, -⟩ := text?_eq_some hc
    refine ⟨e, c, he, hc, hinner.trans hdropped, ?_⟩
    intro m hm
    exact (hpath.infix_method h hs he hm).trans hdropped

/-- A method in a nested declaration, with lines that are empty, hollow and indented. -/
theorem indented_by_depth_inner :
    let body : Method := { name := "f", implementation := "if (x)\n \t\n\n  y();" }
    let outer : Declaration := { indent := "\t", nested := ["inner"] }
    let inner : Declaration := { indent := "  ", kind := some .classKind, methods := [body] }
    let t : Declarations := [("outer", outer), ("inner", inner)]
    ∃ s, t.text? "outer" = some s ∧
      ["\t    if (x)".toList, [], [], "\t      y();".toList] <:+: lines s.toList := by
  intro body outer inner t
  have hnested : t.WellNested := by
    apply wellNested_of_rank fun id => if id = "outer" then 1 else 0
    decide +kernel
  have hinline : t.InLine "outer" := by
    have each : ∀ e ∈ t, '\n' ∉ e.2.indent.toList := by decide +kernel
    exact fun j d _ hd => each (j, d) (Entries.mem_of_get?_eq_some hd)
  obtain ⟨d, texts, s, -, hs, -, -, -, -, hpath⟩ :=
    indented_by_depth t "outer" (hnested.grounded (by decide)) hinline
  have hinner : Path t "outer" [outer] "inner" := .inside rfl List.mem_cons_self (.here "inner")
  obtain ⟨e, c, he, -, -, hmethods⟩ := hpath [outer] "inner" hinner
  obtain rfl : inner = e := Option.some.inj he
  have hbody : (lines body.implementation.toList).map
      (shift (indents [outer] ++ inner.indent.toList ++ inner.indent.toList)) =
        ["\t    if (x)".toList, [], [], "\t      y();".toList] := by
    decide +kernel
  refine ⟨s, hs, ?_⟩
  rw [← hbody]
  exact hmethods body List.mem_cons_self

end Declarations

end SdlPhp.Php
