import Mathlib.Data.List.Basic
import SdlPhp.Php.Fragment
import SdlPhp.Proofs.Text.Pieces

/-!
# Reading a file back

A decoder for the text of a file, which knows neither the schema nor the options. It looks at each
line for itself: four kinds of lines say something (`mark?`), and all others, those of comments
among them, say nothing. From what the lines say it gathers the declarations (`gather`). The text of
an item is read back as that item, as long as its texts hold none of the characters that the decoder
goes by (`marks_item`), so that the texts of many items are read back as these items
(`gather_items`).
-/

namespace SdlPhp.Php

open Text (isIndentChar lines unlines pieces)

/-! ## The decoder -/

/-- What is read back from a file. -/
inductive Declared
  | enumeration (name : String) (cases : List String)
  /-- A class with the types and names of the parameters of its constructor. -/
  | dataClass (name : String) (parameters : List (String × String))
  deriving DecidableEq, Repr

/-- What a line says. -/
inductive Mark
  | enumeration (name : String)
  | enumCase (name : String)
  | dataClass (name : String)
  | parameters (ps : List (String × String))
  deriving DecidableEq, Repr

/-- What stands between two texts in a line that starts with the one and ends with the other. -/
def between? (opening closing line : List Char) : Option String :=
  let rest := line.drop opening.length
  if opening.isPrefixOf line && closing.isSuffixOf rest then
    some (String.ofList (rest.take (rest.length - closing.length)))
  else none

/-- The type and the name of a parameter: the third of four words, and the fourth behind its dollar
sign. -/
def readParameter? (cs : List Char) : Option (String × String) :=
  match pieces ' ' cs with
  | [_, _, type, '$' :: name] => some (String.ofList type, String.ofList name)
  | _ => none

def readParameters (s : String) : List (String × String) :=
  (pieces ',' s.toList).filterMap readParameter?

def mark? (line : List Char) : Option Mark :=
  (between? " enum ".toList " \x7b".toList line).map .enumeration <|>
  (between? "\tpublic function __construct(".toList ") \x7b\x7d".toList line).map
    (.parameters <| readParameters ·) <|>
  (between? "class ".toList [] line).map .dataClass <|>
  (between? "case ".toList ";".toList (line.dropWhile isIndentChar)).map .enumCase

/-- What the lines of a text say. -/
def marks (cs : List Char) : List Mark := (lines cs).filterMap mark?

/-- The cases that follow each other first. -/
def leadingCases : List Mark → List String
  | .enumCase name :: ms => name :: leadingCases ms
  | _ => []

/-- The parameters that come first. -/
def leadingParameters : List Mark → List (String × String)
  | .parameters ps :: _ => ps
  | _ => []

/-- Puts cases and parameters to the declarations before them. -/
def gather : List Mark → List Declared
  | [] => []
  | .enumeration name :: ms => .enumeration name (leadingCases ms) :: gather ms
  | .dataClass name :: ms => .dataClass name (leadingParameters ms) :: gather ms
  | _ :: ms => gather ms

/-- The declarations of a file. -/
def decode (code : String) : List Declared := gather (marks code.toList)

/-! ## Single lines -/

section Lines

theorem between?_append (opening closing : List Char) (s : String) :
    between? opening closing (opening ++ s.toList ++ closing) = some s := by
  have hopens : opening.isPrefixOf (opening ++ s.toList ++ closing) = true :=
    List.isPrefixOf_iff_prefix.2 ⟨s.toList ++ closing, (List.append_assoc _ _ _).symm⟩
  have hsuffix : closing.isSuffixOf (s.toList ++ closing) = true :=
    List.isSuffixOf_iff_suffix.2 ⟨s.toList, rfl⟩
  have hrest : (opening ++ s.toList ++ closing).drop opening.length = s.toList ++ closing := by
    rw [List.append_assoc, List.drop_left]
  have htake : (s.toList ++ closing).take ((s.toList ++ closing).length - closing.length) =
      s.toList := by
    rw [List.length_append, Nat.add_sub_cancel, List.take_left]
  rw [between?]
  simp only [hopens, hrest, hsuffix, htake, Bool.and_self, if_true, String.ofList_toList]

theorem between?_eq_none {opening line : List Char} (closing : List Char)
    (h : opening.isPrefixOf line = false) : between? opening closing line = none := by
  simp [between?, h]

theorem mark?_enumeration (name : String) :
    mark? (" enum ".toList ++ name.toList ++ " \x7b".toList) = some (.enumeration name) := by
  rw [mark?, between?_append]
  rfl

theorem mark?_parameters (s : String) :
    mark? ("\tpublic function __construct(".toList ++ s.toList ++ ") \x7b\x7d".toList) =
      some (.parameters (readParameters s)) := by
  rw [mark?, between?_eq_none _ rfl, between?_append]
  rfl

theorem mark?_dataClass (name : String) :
    mark? ("class ".toList ++ name.toList) = some (.dataClass name) := by
  have hclass := between?_append "class ".toList [] name
  rw [List.append_nil] at hclass
  rw [mark?, between?_eq_none _ rfl, between?_eq_none _ rfl, hclass]
  rfl

/-- A line that starts with a text starts with it behind its blanks too. -/
theorem prefix_of_prefix_indent {indent opening line : List Char} {c : Char}
    (hindent : ∀ c ∈ indent, isIndentChar c = true) (hc : isIndentChar c = false)
    (h : opening <+: indent ++ c :: line) : opening.dropWhile isIndentChar <+: c :: line := by
  induction indent generalizing opening with
  | nil =>
    cases opening with
    | nil => exact List.nil_prefix
    | cons d opening =>
      obtain ⟨rfl, -⟩ := List.cons_prefix_cons.1 h
      rwa [List.dropWhile_cons, hc, if_neg Bool.false_ne_true]
  | cons d indent ih =>
    rw [List.forall_mem_cons] at hindent
    cases opening with
    | nil => exact List.nil_prefix
    | cons e opening =>
      obtain ⟨rfl, hrest⟩ := List.cons_prefix_cons.1 h
      rw [List.dropWhile_cons, hindent.1, if_pos rfl]
      exact ih hindent.2 hrest

theorem mark?_enumCase {indent : List Char} (hindent : ∀ c ∈ indent, isIndentChar c = true)
    (name : String) :
    mark? (indent ++ ("case ".toList ++ name.toList ++ ";".toList)) = some (.enumCase name) := by
  have hdrop : (indent ++ ("case ".toList ++ name.toList ++ ";".toList)).dropWhile isIndentChar =
      "case ".toList ++ name.toList ++ ";".toList := by
    rw [List.dropWhile_append_of_pos hindent]
    rfl
  have other : ∀ opening : List Char,
      (opening.dropWhile isIndentChar).isPrefixOf
        ("case ".toList ++ name.toList ++ ";".toList) = false →
      ∀ closing, between? opening closing
        (indent ++ ("case ".toList ++ name.toList ++ ";".toList)) = none := by
    intro opening hopening closing
    refine between?_eq_none _ (Bool.eq_false_iff.2 fun h => ?_)
    rw [Bool.eq_false_iff, ne_eq, List.isPrefixOf_iff_prefix] at hopening
    exact hopening (prefix_of_prefix_indent hindent rfl (List.isPrefixOf_iff_prefix.1 h))
  rw [mark?, other _ rfl, other _ rfl, other _ rfl, hdrop, between?_append]
  rfl

/-- A line says nothing if it starts with none of three characters. -/
theorem mark?_eq_none_of_head {c : Char} (hspace : c ≠ ' ') (htab : c ≠ '\t') (hc : c ≠ 'c')
    (cs : List Char) : mark? (c :: cs) = none := by
  have other : ∀ {d : Char} (opening : List Char), opening.head? = some d → d ≠ c → ∀ closing,
      between? opening closing (c :: cs) = none := by
    intro d opening hhead hd closing
    refine between?_eq_none _ ?_
    cases opening with
    | nil => cases hhead
    | cons e opening =>
      cases hhead
      rw [List.isPrefixOf, beq_false_of_ne hd, Bool.false_and]
  have hdrop : (c :: cs).dropWhile isIndentChar = c :: cs := by
    rw [List.dropWhile_cons, if_neg (by simp [isIndentChar, hspace, htab])]
  rw [mark?, hdrop, other " enum ".toList rfl hspace.symm,
    other "\tpublic function __construct(".toList rfl htab.symm,
    other "class ".toList rfl hc.symm, other "case ".toList rfl hc.symm]
  rfl

/-- A line of a comment says nothing. -/
theorem mark?_eq_none_of_comment (cs : List Char) : mark? (' ' :: '*' :: cs) = none := rfl

end Lines

/-! ## Many lines -/

section Marks

/-- What the lines of two texts say is what the lines of the one and then those of the other say. -/
theorem marks_append (cs ds : List Char) : marks (cs ++ '\n' :: ds) = marks cs ++ marks ds := by
  rw [marks, lines, Text.pieces_append, List.filterMap_append]
  rfl

theorem marks_of_line {l : List Char} (h : '\n' ∉ l) : marks l = (mark? l).toList := by
  rw [marks, lines, Text.pieces_of_not_mem h, List.filterMap_cons]
  cases mark? l <;> rfl

theorem marks_nil : marks [] = [] := rfl

theorem marks_unlines (ts : List (List Char)) : marks (unlines ts) = ts.flatMap marks := by
  cases ts with
  | nil => rfl
  | cons t ts =>
    rw [marks, lines, unlines, Text.pieces_join (List.cons_ne_nil t ts), List.filterMap_flatMap]
    rfl

/-- Line feeds at the end say nothing. -/
theorem marks_dropTrailing (cs : List Char) : marks (Text.dropTrailing '\n' cs) = marks cs := by
  obtain ⟨k, hk⟩ := Text.pieces_dropTrailing '\n' cs
  have hempty : (List.replicate k []).filterMap mark? = [] := by
    rw [List.filterMap_eq_nil_iff]
    intro l hl
    rw [List.eq_of_mem_replicate hl]
    rfl
  rw [marks, marks, lines, lines, hk, List.filterMap_append, hempty, List.append_nil]

end Marks

/-! ## Plain texts -/

/-- The characters that the decoder goes by, and all brackets. -/
def delimiters : List Char := ['\n', ' ', ',', ';', '$', '(', ')', '[', ']', '{', '}']

def isPlain (c : Char) : Bool := !delimiters.contains c

def Plain (s : String) : Prop := ∀ c ∈ s.toList, isPlain c = true

instance : DecidablePred Plain :=
  fun s => decidable_of_iff (s.toList.all isPlain = true) List.all_eq_true

section Plain

variable {s t : String}

theorem Plain.not_mem (h : Plain s) {c : Char} (hc : isPlain c = false) : c ∉ s.toList := by
  intro hmem
  rw [h c hmem] at hc
  cases hc

theorem Plain.append (hs : Plain s) (ht : Plain t) : Plain (s ++ t) := by
  rw [Plain, String.toList_append, List.forall_mem_append]
  exact ⟨hs, ht⟩

end Plain

/-! ## Items -/

section Items

variable {o : Options}

/-- The parameter of a constructor as it is read back. -/
def Parameter.declared (o : Options) (p : Parameter) : String × String :=
  (p.type, o.membersPrefix.text ++ p.name)

structure Parameter.Legible (o : Options) (p : Parameter) : Prop where
  type : Plain p.type
  name : Plain (o.membersPrefix.text ++ p.name)

theorem Parameter.text_toList (o : Options) (p : Parameter) :
    (p.text o).toList = "public readonly ".toList ++ (p.type.toList ++ (" $".toList ++
      (o.membersPrefix.text ++ p.name).toList)) := by
  unfold Parameter.text
  rw [String.toList_append, String.toList_append, String.toList_append, String.toList_append,
    String.toList_append, List.append_assoc, List.append_assoc, List.append_assoc]

theorem readParameter?_text {p : Parameter} (h : p.Legible o) :
    readParameter? (p.text o).toList = some (p.declared o) := by
  have hname : ' ' ∉ '$' :: (o.membersPrefix.text ++ p.name).toList := by
    rw [List.mem_cons, not_or]
    exact ⟨by decide, h.name.not_mem rfl⟩
  have hwords : (p.text o).toList = "public".toList ++ ' ' :: ("readonly".toList ++ ' ' ::
      (p.type.toList ++ ' ' :: '$' :: (o.membersPrefix.text ++ p.name).toList)) := by
    have hpublic : "public readonly ".toList =
      "public".toList ++ ' ' :: ("readonly".toList ++ [' ']) := by decide
    have hdollar : " $".toList = [' ', '$'] := by decide
    rw [p.text_toList, hpublic, hdollar]
    simp only [List.append_assoc, List.cons_append, List.nil_append]
  rw [readParameter?, hwords, Text.pieces_append_sep (by decide),
    Text.pieces_append_sep (by decide), Text.pieces_append_sep (h.type.not_mem rfl),
    Text.pieces_of_not_mem hname]
  simp [Parameter.declared]

/-- No parameter holds a character that ends parameters or lines. -/
theorem Parameter.Legible.not_mem_text {p : Parameter} (h : p.Legible o) {c : Char}
    (hc : isPlain c = false) (hwords : c ∉ "public readonly ".toList) (hdollar : c ∉ " $".toList) :
    c ∉ (p.text o).toList := by
  simp only [p.text_toList, List.mem_append, not_or]
  exact ⟨hwords, h.type.not_mem hc, hdollar, h.name.not_mem hc⟩

/-! ### Classes -/

structure DataClass.Legible (o : Options) (c : DataClass) : Prop where
  name : Plain c.name
  parameters : ∀ p ∈ c.parameters, p.Legible o

/-- The parameters of a class as they stand in its constructor. -/
def DataClass.parameterList (o : Options) (c : DataClass) : String :=
  ",".intercalate (c.parameters.map (Parameter.text o))

theorem DataClass.text_toList (o : Options) (c : DataClass) :
    (c.text o).toList = ("class ".toList ++ c.name.toList) ++ '\n' :: ("\x7b".toList ++ '\n' ::
      (("\tpublic function __construct(".toList ++ (c.parameterList o).toList ++
        ") \x7b\x7d".toList) ++ '\n' :: "\x7d".toList)) := by
  have hopening : "\n\x7b\n\tpublic function __construct(".toList =
      '\n' :: ("\x7b".toList ++ '\n' :: "\tpublic function __construct(".toList) := by decide
  have hclosing : ") \x7b\x7d\n\x7d".toList = ") \x7b\x7d".toList ++ '\n' :: "\x7d".toList := by
    decide
  unfold DataClass.text
  rw [String.toList_append, String.toList_append, String.toList_append, String.toList_append,
    hopening, hclosing]
  simp only [List.append_assoc, List.cons_append, DataClass.parameterList]

theorem DataClass.parameterList_toList (o : Options) (c : DataClass) :
    (c.parameterList o).toList = Text.join ',' (c.parameters.map fun p => (p.text o).toList) := by
  rw [DataClass.parameterList, String.toList_intercalate, List.map_map]
  rfl

theorem readParameters_parameterList {c : DataClass} (h : c.Legible o) :
    readParameters (c.parameterList o) = c.parameters.map (Parameter.declared o) := by
  have comma_not_mem : ∀ l ∈ c.parameters.map fun p => (p.text o).toList, ',' ∉ l :=
    List.forall_mem_map.2 fun p hp =>
      (h.parameters p hp).not_mem_text rfl (by decide) (by decide)
  rw [readParameters, c.parameterList_toList]
  cases hparameters : c.parameters with
  | nil => rfl
  | cons p ps =>
    rw [hparameters] at comma_not_mem
    rw [Text.pieces_join_of_not_mem (by simp) comma_not_mem, List.filterMap_map,
      List.filterMap_eq_map_iff_forall_eq_some]
    exact fun q hq => readParameter?_text (h.parameters q (hparameters ▸ hq))

/-- A class is read back as its header and its parameters. -/
theorem marks_dataClass {c : DataClass} (h : c.Legible o) :
    marks (c.text o).toList =
      [.dataClass c.name, .parameters (c.parameters.map (Parameter.declared o))] := by
  have hheader : '\n' ∉ "class ".toList ++ c.name.toList := by
    rw [List.mem_append, not_or]
    exact ⟨by decide, h.name.not_mem rfl⟩
  have hlist : '\n' ∉ (c.parameterList o).toList := by
    rw [c.parameterList_toList]
    intro hmem
    rcases Text.mem_join hmem with e | ⟨l, hl, hmem⟩
    · cases e
    · obtain ⟨p, hp, rfl⟩ := List.mem_map.1 hl
      exact (h.parameters p hp).not_mem_text rfl (by decide) (by decide) hmem
  have hconstructor : '\n' ∉ "\tpublic function __construct(".toList ++
      (c.parameterList o).toList ++ ") \x7b\x7d".toList := by
    simp only [List.mem_append, not_or]
    exact ⟨⟨by decide, hlist⟩, by decide⟩
  have hopen : mark? "\x7b".toList = none := rfl
  have hclose : mark? "\x7d".toList = none := rfl
  rw [c.text_toList, marks_append, marks_append, marks_append, marks_of_line hheader,
    marks_of_line hconstructor, marks_of_line (by decide), marks_of_line (by decide),
    mark?_dataClass, mark?_parameters, hopen, hclose, readParameters_parameterList h]
  rfl

/-! ### Comments -/

theorem newline_not_mem_of_mem_lines {cs l : List Char} (h : l ∈ lines cs) : '\n' ∉ l :=
  Text.sep_not_mem_of_mem_pieces h

/-- A line of a comment says nothing. -/
theorem marks_commentLine {l : List Char} (h : '\n' ∉ l) : marks (" * ".toList ++ l) = [] := by
  have hline : '\n' ∉ " * ".toList ++ l := by
    rw [List.mem_append, not_or]
    exact ⟨by decide, h⟩
  rw [marks_of_line hline]
  exact congrArg Option.toList (mark?_eq_none_of_comment _)

/-- A comment on one line says nothing. -/
theorem marks_commentOnOneLine {line : List Char} (h : '\n' ∉ line) (cs : List Char) :
    marks ("/** ".toList ++ line ++ " */\n".toList ++ cs) = marks cs := by
  have hline : '\n' ∉ "/** ".toList ++ line ++ " */".toList := by
    simp only [List.mem_append, not_or]
    exact ⟨⟨by decide, h⟩, by decide⟩
  have hend : " */\n".toList = " */".toList ++ ['\n'] := by decide
  have hmark : mark? ("/** ".toList ++ line ++ " */".toList) = none :=
    mark?_eq_none_of_head (by decide) (by decide) (by decide) _
  rw [hend, ← List.append_assoc, List.append_assoc, List.singleton_append, marks_append,
    marks_of_line hline, hmark]
  rfl

/-- A comment on many lines says nothing. -/
theorem marks_commentOnLines {ls : List (List Char)} (h : ∀ l ∈ ls, '\n' ∉ l) (cs : List Char) :
    marks (unlines (["/**".toList] ++ ls.map (" * ".toList ++ ·) ++ [" */\n".toList]) ++ cs) =
      marks cs := by
  have hend : " */\n".toList ++ cs = " */".toList ++ '\n' :: cs := by
    have : " */\n".toList = " */".toList ++ ['\n'] := by decide
    rw [this, List.append_assoc, List.singleton_append]
  have hopen : marks "/**".toList = [] := rfl
  have hclose : marks " */".toList = [] := rfl
  have hbody : ls.flatMap (fun l => marks (" * ".toList ++ l)) = [] :=
    List.flatMap_eq_nil_iff.2 fun l hl => marks_commentLine (h l hl)
  rw [unlines, Text.join_append_singleton, ← unlines, marks_unlines, List.flatMap_append,
    List.flatMap_append, List.flatMap_singleton, List.flatMap_singleton, List.flatMap_map,
    hbody, hopen, hend, marks_append, hclose]
  rfl

/-- A comment says nothing, whatever its description is. -/
theorem marks_docCommentChars (description cs : List Char) :
    marks (docCommentChars description ++ cs) = marks cs := by
  have hlines : ∀ l ∈ lines (escapeCommentEnd description), '\n' ∉ l :=
    fun l hl => newline_not_mem_of_mem_lines hl
  rw [docCommentChars]
  split
  · rfl
  · split
    · rename_i line heq
      exact marks_commentOnOneLine (hlines line (by simp [heq])) cs
    · exact marks_commentOnLines hlines cs

/-! ### Enumerations -/

structure Enumeration.Legible (e : Enumeration) : Prop where
  name : Plain e.name
  cases : ∀ c ∈ e.cases, Plain c
  indent : ∀ c ∈ e.indent.toList, isIndentChar c = true

/-- The lines of the cases before they are indented. -/
def Enumeration.caseLines (e : Enumeration) : List (List Char) :=
  e.cases.map fun c => "case ".toList ++ c.toList ++ ";".toList

/-- The comment in front of an enumeration. -/
def Enumeration.comment (o : Options) (e : Enumeration) : List Char :=
  if o.addComments.isTrue then docCommentChars (e.description.getD "").toList else []

/-- The cases of an enumeration, each on a line. -/
def Enumeration.caseText (e : Enumeration) : String :=
  "\n".intercalate (e.cases.map fun c => "case " ++ c ++ ";")

/-- The text between the braces of an enumeration. -/
def Enumeration.block (e : Enumeration) : List Char :=
  Text.indentChars e.indent.toList (unlines e.caseLines)

theorem Enumeration.block_eq (e : Enumeration) :
    (Text.indentBy e.indent e.caseText).toList = e.block := by
  have hlines : e.caseText.toList = unlines e.caseLines := by
    rw [Enumeration.caseText, String.toList_intercalate, List.map_map, Enumeration.caseLines]
    refine congrArg unlines (List.map_congr_left fun c _ => ?_)
    rw [Function.comp_apply, String.toList_append, String.toList_append]
  rw [Text.indentBy, String.toList_ofList, hlines, Enumeration.block]

/-- The declaration whose text is that of an enumeration. -/
def Enumeration.declaration (o : Options) (e : Enumeration) : Declaration :=
  { indent := e.indent
    name := some e.name
    kind := some .enumKind
    block := some (Text.indentBy e.indent e.caseText)
    comment := if o.addComments.isTrue then docComment (e.description.getD "") else "" }

theorem Enumeration.declaration_comment (o : Options) (e : Enumeration) :
    (e.declaration o).comment.toList = e.comment o := by
  rw [Enumeration.comment, Enumeration.declaration]
  dsimp only
  split
  · exact String.toList_ofList
  · rfl

theorem Enumeration.declaration_header (o : Options) (e : Enumeration) :
    (e.declaration o).header.toList = " enum ".toList ++ e.name.toList ++ " ".toList := by
  simp [Enumeration.declaration, Declaration.header, Declaration.annotationLines,
    Declaration.parentList, word, DeclarationKind.text, Access.text]

/-- Nothing but the block stands between the braces of an enumeration. -/
theorem Enumeration.declaration_parts (o : Options) (e : Enumeration) :
    (((e.declaration o).parts []).filter (!·.isEmpty)).map String.toList =
      if e.block.isEmpty then [] else [e.block] := by
  let block := Text.indentBy e.indent e.caseText
  have hblock : block.toList = e.block := e.block_eq
  have hempty : block.isEmpty = e.block.isEmpty := by
    rw [← hblock, Bool.eq_iff_iff]
    simp
  have hfilter : ((e.declaration o).parts []).filter (!·.isEmpty) =
      if block.isEmpty then [] else [block] := by
    simp [Enumeration.declaration, Declaration.parts, List.filter_cons, block]
  rw [hfilter, hempty]
  split
  · rfl
  · rw [List.map_singleton, hblock]

theorem Enumeration.text_toList (o : Options) (e : Enumeration) :
    (e.text o).toList = e.comment o ++ (unlines
      (((" enum ".toList ++ e.name.toList ++ " \x7b".toList) ::
        if e.block.isEmpty then [] else [e.block]) ++ ["\x7d".toList]) ++ ['\n']) := by
  have hopen : " enum ".toList ++ e.name.toList ++ " ".toList ++ "\x7b".toList =
      " enum ".toList ++ e.name.toList ++ " \x7b".toList := by
    rw [List.append_assoc]
    rfl
  change ((e.declaration o).comment ++ (e.declaration o).header ++
    "\n".intercalate (["\x7b"] ++ ((e.declaration o).parts []).filter (!·.isEmpty) ++ ["\x7d"]) ++
    "\n").toList = _
  rw [String.toList_append, String.toList_append, String.toList_append, e.declaration_comment,
    e.declaration_header, String.toList_intercalate, List.map_append, List.map_append,
    e.declaration_parts, ← hopen, unlines, List.cons_append, ← Text.append_join_cons]
  simp only [List.append_assoc]
  rfl

theorem marks_block {e : Enumeration} (h : e.Legible) :
    marks e.block = e.cases.map .enumCase := by
  have newline_not_mem : ∀ l ∈ e.caseLines, '\n' ∉ l := by
    refine List.forall_mem_map.2 fun c hc => ?_
    simp only [List.mem_append, not_or]
    exact ⟨⟨by decide, (h.cases c hc).not_mem rfl⟩, by decide⟩
  have newline_not_mem_indent : '\n' ∉ e.indent.toList :=
    fun hmem => absurd (h.indent _ hmem) (by decide)
  have hline : ∀ c ∈ e.cases, marks (Text.indentLine e.indent.toList
      ("case ".toList ++ c.toList ++ ";".toList)) = [.enumCase c] := by
    intro c hc
    have hl := newline_not_mem _ (List.mem_map_of_mem hc)
    have hfull : '\n' ∉ e.indent.toList ++ ("case ".toList ++ c.toList ++ ";".toList) := by
      rw [List.mem_append, not_or]
      exact ⟨newline_not_mem_indent, hl⟩
    have hblank : ¬ Text.allBlank ("case ".toList ++ c.toList ++ ";".toList) = true :=
      Bool.false_ne_true
    rw [Text.indentLine, if_neg hblank, marks_of_line hfull, mark?_enumCase h.indent]
    rfl
  rw [Enumeration.block, Text.indentChars]
  cases hcases : e.cases with
  | nil =>
    rw [Enumeration.caseLines, hcases]
    rfl
  | cons c cs =>
    have hne : e.caseLines ≠ [] := by
      rw [Enumeration.caseLines, hcases]
      exact List.cons_ne_nil _ _
    rw [Text.lines_unlines hne newline_not_mem, marks_unlines, ← hcases, Enumeration.caseLines,
      List.map_map, List.flatMap_map, List.map_eq_flatMap]
    exact List.flatMap_congr hline

/-- An enumeration is read back as its header and its cases. -/
theorem marks_enumeration {e : Enumeration} (h : e.Legible) :
    marks (e.text o).toList = .enumeration e.name :: e.cases.map .enumCase := by
  have hheader : '\n' ∉ " enum ".toList ++ e.name.toList ++ " \x7b".toList := by
    simp only [List.mem_append, not_or]
    exact ⟨⟨by decide, h.name.not_mem rfl⟩, by decide⟩
  have hcomment : ∀ cs, marks (e.comment o ++ cs) = marks cs := by
    intro cs
    rw [Enumeration.comment]
    split
    · exact marks_docCommentChars _ cs
    · rfl
  have hblock : (if e.block.isEmpty then [] else [e.block]).flatMap marks =
      e.cases.map .enumCase := by
    rw [← marks_block h]
    split
    · rename_i hempty
      rw [List.isEmpty_iff.1 hempty]
      rfl
    · rw [List.flatMap_singleton]
  have hclose : marks "\x7d".toList = [] := rfl
  rw [e.text_toList, hcomment, marks_append, marks_unlines, List.flatMap_append,
    List.flatMap_cons, hblock, List.flatMap_singleton, hclose, marks_of_line hheader,
    mark?_enumeration, marks_nil]
  simp

/-! ### Items of both kinds -/

def Item.Legible (o : Options) : Item → Prop
  | enumeration e => e.Legible
  | dataClass c => c.Legible o

/-- What the lines of an item say. -/
def Item.marks (o : Options) : Item → List Mark
  | enumeration e => .enumeration e.name :: e.cases.map .enumCase
  | dataClass c => [.dataClass c.name, .parameters (c.parameters.map (Parameter.declared o))]

/-- The item as it is read back. -/
def Item.declared (o : Options) : Item → Declared
  | enumeration e => .enumeration e.name e.cases
  | dataClass c => .dataClass c.name (c.parameters.map (Parameter.declared o))

theorem marks_item {i : Item} (h : i.Legible o) : marks (i.text o).toList = i.marks o := by
  cases i with
  | enumeration e => exact marks_enumeration h
  | dataClass c => exact marks_dataClass h

theorem leadingCases_append (cases : List String) (ms : List Mark) :
    leadingCases (cases.map .enumCase ++ ms) = cases ++ leadingCases ms := by
  induction cases with
  | nil => rfl
  | cons c cases ih => rw [List.map_cons, List.cons_append, leadingCases, ih, List.cons_append]

theorem gather_append_cases (cases : List String) (ms : List Mark) :
    gather (cases.map .enumCase ++ ms) = gather ms := by
  induction cases with
  | nil => rfl
  | cons c cases ih =>
    rw [List.map_cons, List.cons_append, ← ih]
    rfl

/-- No case stands in front of an item. -/
theorem leadingCases_items (items : List Item) :
    leadingCases (items.flatMap (Item.marks o)) = [] := by
  cases items with
  | nil => rfl
  | cons i items => cases i <;> rfl

/-- From what the lines of some items say the items are gathered again. -/
theorem gather_items (items : List Item) :
    gather (items.flatMap (Item.marks o)) = items.map (Item.declared o) := by
  induction items with
  | nil => rfl
  | cons i items ih =>
    rw [List.flatMap_cons, List.map_cons]
    cases i with
    | enumeration e =>
      rw [Item.marks, List.cons_append, gather, leadingCases_append, leadingCases_items,
        List.append_nil, gather_append_cases, ih]
      rfl
    | dataClass c =>
      rw [← ih]
      rfl

end Items

end SdlPhp.Php
