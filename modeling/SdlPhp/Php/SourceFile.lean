import SdlPhp.Options.Basic
import SdlPhp.Php.Namespace
import SdlPhp.Template.Reader
import SdlPhp.Text.Blank

/-!
# Files

A complete file: the tag that opens it, its namespace, its imports and its body. Its text comes from
a template, or is put together without one.
-/

namespace SdlPhp.Php

structure SourceFile where
  openTag : Bool
  phpNamespace : String
  imports : List String
  body : String
  deriving DecidableEq, Repr

namespace SourceFile

/-- The name of the language. -/
def language : String := "php"

/-- The extension of files. -/
def extension : String := ".php"

/-- What the options import. -/
def importsOf (o : Options) : Except Misuse (List String) :=
  match o.imports with
  | .value names => .ok names
  | .other v => (v.items.map (List.map Json.display)).mapError .noItems

/-- The file with the given body under options. -/
def ofBody (o : Options) (body : String) : Except Misuse SourceFile := do
  return {
    openTag := o.openTag.isTrue
    phpNamespace := (← resolveNamespace o).text
    imports := ← importsOf o
    body := String.ofList (Text.dropTrailing '\n' body.toList) }

def namespaceLine (f : SourceFile) : String := "namespace " ++ f.phpNamespace ++ ";"

def importLines (f : SourceFile) : List String := f.imports.map fun i => "use " ++ i ++ ";"

/-- The text, part by part with a blank line between the parts. -/
def plainText (f : SourceFile) : String :=
  "\n".intercalate <|
    (if f.openTag then ["<?php\n"] else []) ++
    [f.namespaceLine ++ "\n"] ++
    (if f.imports.isEmpty then [] else ["\n".intercalate f.importLines ++ "\n"]) ++
    [f.body ++ "\n"]

/-! ## By template -/

def templateName : String := "file.php.j2"

/-- The text of the template of a file. -/
def templateSource : String :=
  "\x7b% if open_tag %\x7d\n" ++
  "<?php\n" ++
  "\n" ++
  "\x7b% endif %\x7d\n" ++
  "namespace \x7b\x7b namespace \x7d\x7d;\n" ++
  "\n" ++
  "\x7b% for import in imports %\x7d\n" ++
  "use \x7b\x7b import \x7d\x7d;\n" ++
  "\x7b% endfor %\x7d\n" ++
  "\x7b% if imports %\x7d\n" ++
  "\n" ++
  "\x7b% endif %\x7d\n" ++
  "\x7b\x7b body \x7d\x7d\n"

/-- The templates that there are. -/
def templates : Entries String := [(templateName, templateSource)]

/-- The pieces of the template of a file. -/
def template : List Piece :=
  [.ifTrue "open_tag" [.text "<?php\n\n"],
   .text "namespace ", .value "namespace", .text ";\n\n",
   .forEach "import" "imports" [.text "use ", .value "import", .text ";\n"],
   .ifTrue "imports" [.text "\n"],
   .value "body", .text "\n"]

set_option maxRecDepth 4000 in
/-- The tags of blocks leave nothing of their lines behind. -/
theorem read_templateSource : Template.read Template.spacing templateSource = .ok template := by
  rfl

def context (f : SourceFile) : Template.Context :=
  [("open_tag", .bool f.openTag), ("namespace", .text f.phpNamespace),
   ("imports", .list (f.imports.map .text)), ("body", .text f.body)]

/-- What the template gives. -/
def rendered (f : SourceFile) : Except Template.Fault String :=
  Template.renderNamed templates templateName f.context

theorem rendered_eq (f : SourceFile) :
    f.rendered = (Template.render f.context template).mapError .items := by
  have found : Template.find? templates templateName = some templateSource := rfl
  rw [rendered, Template.renderNamed, found]
  dsimp only
  rw [read_templateSource]
  rfl

/-- The template can always be shown: it asks for the items of a list and of nothing else. -/
theorem exists_rendered (f : SourceFile) : ∃ s, f.rendered = .ok s := by
  have block (key : String) (s : String) :
      ∃ t, Template.renderPiece f.context (.ifTrue key [.text s]) = .ok t := by
    rw [Template.renderPiece]
    split
    · exact ⟨_, rfl⟩
    · exact ⟨_, rfl⟩
  have lines (items : List Json) :
      items.mapM (fun v => Template.render (f.context.put "import" v)
        [.text "use ", .value "import", .text ";\n"]) =
      Except.ok (ε := Json.ItemsFault) (items.map fun v => "use " ++
        (Template.valueText (f.context.put "import" v) "import" ++ (";\n" ++ ""))) :=
    List.mapM_pure
  have imports : ∃ t, Template.renderPiece f.context (.forEach "import" "imports"
      [.text "use ", .value "import", .text ";\n"]) = .ok t := by
    have found : Template.items f.context "imports" = .ok (f.imports.map .text) := rfl
    rw [Template.renderPiece, found]
    simp only [bind, Except.bind, lines]
    exact ⟨_, rfl⟩
  obtain ⟨opening, hopening⟩ := block "open_tag" "<?php\n\n"
  obtain ⟨uses, huses⟩ := imports
  obtain ⟨gap, hgap⟩ := block "imports" "\n"
  rw [rendered_eq]
  simp only [template, Template.render, hopening, huses, hgap]
  exact ⟨_, rfl⟩

/-- The text that the template gives. There is no other way out: the template can be shown. -/
@[irreducible]
def templateText (f : SourceFile) : String :=
  match h : f.rendered with
  | .ok s => s
  | .error _ => nomatch f.exists_rendered.choose_spec.symm.trans h

/-- The text of the file: by its template, if the templates are there, and else without one. -/
def text (f : SourceFile) (hasTemplates : Bool) : String :=
  if hasTemplates then f.templateText else f.plainText

end SourceFile

end SdlPhp.Php
