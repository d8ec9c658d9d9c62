import SdlPhp.Php.SourceFile
import SdlPhp.Proofs.Attempt
import SdlPhp.Proofs.Php.Outline

/-!
# Text of a file

The template of a file gives the text that is put together without it (`rendered_eq_plainText`), and
in that text only the body says anything to the decoder (`marks_plainText`).
-/

namespace SdlPhp.Php

open Attempt
open Text (unlines)

namespace SourceFile

variable (f : SourceFile)

/-! ## By template and without -/

/-- The line of an import with its line feed. -/
def importLine (i : String) : String := "use " ++ i ++ ";" ++ "\n"

/-- Lines that each end in a line feed are lines with line feeds between them and one more. -/
theorem join_map_newline {ls : List String} (hls : ls ≠ []) :
    String.join (ls.map (· ++ "\n")) = "\n".intercalate ls ++ "\n" := by
  induction ls with
  | nil => exact absurd rfl hls
  | cons l ls ih =>
    cases ls with
    | nil => rw [List.map_singleton, String.join_cons, String.join_nil, String.append_empty,
        String.intercalate_singleton]
    | cons m ls => rw [List.map_cons, String.join_cons, ih (List.cons_ne_nil m ls),
        String.intercalate_cons_cons, String.append_assoc, String.append_assoc,
        String.append_assoc]

theorem render_openTag :
    Template.renderPiece f.context (.ifTrue "open_tag" [.text "<?php\n\n"]) =
      .ok (if f.openTag then "<?php\n\n" else "") := by
  rw [Template.renderPiece]
  cases f with
  | mk openTag phpNamespace imports body => cases openTag <;> rfl

theorem render_imports :
    Template.renderPiece f.context (.forEach "import" "imports"
      [.text "use ", .value "import", .text ";\n"]) =
      .ok (String.join (f.imports.map importLine)) := by
  have hitems : Template.items f.context "imports" = .ok (f.imports.map .text) := rfl
  have hline : ∀ i, Template.render (f.context.put "import" (.text i))
      [.text "use ", .value "import", .text ";\n"] = .ok (importLine i) := by
    intro i
    have hsplit : ";\n" = ";" ++ "\n" := rfl
    simp only [Template.render, Template.renderPiece, Template.valueText, Entries.get?_put_self,
      importLine, hsplit, String.append_assoc]
    change Except.ok ("use " ++ (i ++ (";" ++ "\n" ++ ""))) = _
    rw [String.append_empty]
  have hlines : (f.imports.map Json.text).mapM (fun v =>
      Template.render (f.context.put "import" v) [.text "use ", .value "import", .text ";\n"]) =
      .ok (f.imports.map importLine) := by
    rw [mapM_eq_ok, List.forall₂_map_left_iff, List.forall₂_map_right_iff, List.forall₂_same]
    exact fun i _ => hline i
  rw [Template.renderPiece, bind_eq_ok]
  exact ⟨_, hitems, bind_eq_ok.2 ⟨_, hlines, rfl⟩⟩

theorem render_importsEnd :
    Template.renderPiece f.context (.ifTrue "imports" [.text "\n"]) =
      .ok (if f.imports.isEmpty then "" else "\n") := by
  rw [Template.renderPiece]
  cases f with
  | mk openTag phpNamespace imports body => cases imports <;> rfl

theorem render_template : Template.render f.context template = .ok
    ((if f.openTag then "<?php\n\n" else "") ++ ("namespace " ++ (f.phpNamespace ++ (";\n\n" ++
      (String.join (f.imports.map importLine) ++
        ((if f.imports.isEmpty then "" else "\n") ++ (f.body ++ ("\n" ++ "")))))))) := by
  have htext : ∀ s, Template.renderPiece f.context (.text s) = .ok s := fun _ => rfl
  have hnamespace : Template.renderPiece f.context (.value "namespace") = .ok f.phpNamespace := rfl
  have hbody : Template.renderPiece f.context (.value "body") = .ok f.body := rfl
  simp only [template, Template.render, render_openTag, render_imports, render_importsEnd,
    hnamespace, hbody, htext]
  rfl

/-- The template gives the text that is put together without it. -/
theorem rendered_eq_plainText : f.rendered = .ok f.plainText := by
  have hlines : f.imports.map importLine = f.importLines.map (· ++ "\n") := by
    rw [importLines, List.map_map]
    rfl
  have hopening : "<?php\n\n" = "<?php\n" ++ "\n" := rfl
  have hnamespace : ";\n\n" = ";" ++ ("\n" ++ "\n") := rfl
  rw [rendered_eq, mapError_eq_ok, render_template, hlines, hopening, hnamespace, plainText,
    namespaceLine]
  congr 1
  cases himports : f.imports with
  | nil =>
    have hlist : f.importLines = [] := by rw [importLines, himports, List.map_nil]
    rw [hlist]
    cases f.openTag <;> simp [String.append_assoc]
  | cons i is =>
    have hlist : f.importLines ≠ [] := by simp [importLines, himports]
    have hfeeds : "\n" ++ ("\n" ++ (f.body ++ "\n")) = "\n\n" ++ (f.body ++ "\n") :=
      String.append_assoc.symm
    rw [join_map_newline hlist]
    cases f.openTag <;> simpa [String.append_assoc] using hfeeds

theorem templateText_eq_plainText : f.templateText = f.plainText := by
  unfold templateText
  split
  · next s h => exact Except.ok.inj (h.symm.trans f.rendered_eq_plainText)
  · next fault h =>
    rw [f.rendered_eq_plainText] at h
    cases h

/-- Whether there are templates makes no difference to the text. -/
theorem text_eq (hasTemplates : Bool) : f.text hasTemplates = f.plainText := by
  cases hasTemplates with
  | false => rfl
  | true =>
    rw [text, if_pos rfl]
    exact f.templateText_eq_plainText

/-! ## Reading back -/

theorem marks_append_newline (s : String) : marks (s ++ "\n").toList = marks s.toList := by
  have hfeed : "\n".toList = ['\n'] := rfl
  rw [String.toList_append, hfeed, marks_append, marks_nil, List.append_nil]

theorem marks_namespaceLine (hns : '\n' ∉ f.phpNamespace.toList) :
    marks f.namespaceLine.toList = [] := by
  have hline : '\n' ∉ "namespace ".toList ++ f.phpNamespace.toList ++ ";".toList := by
    simp only [List.mem_append, not_or]
    exact ⟨⟨by decide, hns⟩, by decide⟩
  have hmark : mark? ("namespace ".toList ++ f.phpNamespace.toList ++ ";".toList) = none :=
    mark?_eq_none_of_head (by decide) (by decide) (by decide) _
  rw [namespaceLine, String.toList_append, String.toList_append, marks_of_line hline, hmark]
  rfl

theorem marks_importLines (himports : ∀ i ∈ f.imports, '\n' ∉ i.toList) :
    marks ("\n".intercalate f.importLines).toList = [] := by
  have hlines : ("\n".intercalate f.importLines).toList =
      unlines (f.imports.map fun i => ("use " ++ i ++ ";").toList) := by
    rw [String.toList_intercalate, importLines, List.map_map]
    rfl
  rw [hlines, marks_unlines, List.flatMap_map, List.flatMap_eq_nil_iff]
  intro i hi
  have hline : '\n' ∉ "use ".toList ++ i.toList ++ ";".toList := by
    simp only [List.mem_append, not_or]
    exact ⟨⟨by decide, himports i hi⟩, by decide⟩
  have hmark : mark? ("use ".toList ++ i.toList ++ ";".toList) = none :=
    mark?_eq_none_of_head (by decide) (by decide) (by decide) _
  rw [String.toList_append, String.toList_append, marks_of_line hline, hmark]
  rfl

/-- Only the body of a file says anything. -/
theorem marks_plainText (hns : '\n' ∉ f.phpNamespace.toList)
    (himports : ∀ i ∈ f.imports, '\n' ∉ i.toList) :
    marks f.plainText.toList = marks f.body.toList := by
  have htag : (if f.openTag then ["<?php\n"] else []).flatMap (fun s => marks s.toList) = [] := by
    split <;> rfl
  have huse : (if f.imports.isEmpty then [] else ["\n".intercalate f.importLines ++ "\n"]).flatMap
      (fun s => marks s.toList) = [] := by
    split
    · rfl
    · rw [List.flatMap_singleton, marks_append_newline, f.marks_importLines himports]
  have htext : f.plainText.toList = unlines
      (((if f.openTag then ["<?php\n"] else []) ++ [f.namespaceLine ++ "\n"] ++
        (if f.imports.isEmpty then [] else ["\n".intercalate f.importLines ++ "\n"]) ++
        [f.body ++ "\n"]).map String.toList) := String.toList_intercalate
  rw [htext, marks_unlines, List.flatMap_map, List.flatMap_append, List.flatMap_append,
    List.flatMap_append, List.flatMap_singleton, List.flatMap_singleton, marks_append_newline,
    marks_append_newline, f.marks_namespaceLine hns, htag, huse]
  rfl

end SourceFile

end SdlPhp.Php
