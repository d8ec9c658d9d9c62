import SdlPhp.Text.Pieces

/-!
# Doc comments

A description as a doc comment of the generated language: on one line if it has one line, else with
one line of the comment for each of its own. The mark that ends a comment is broken by a backslash
where the description holds it.
-/

namespace SdlPhp.Php

/-- Writes a backslash into each `*/`, from left to right. -/
def escapeCommentEnd : List Char → List Char
  | '*' :: '/' :: cs => '*' :: '\\' :: '/' :: escapeCommentEnd cs
  | c :: cs => c :: escapeCommentEnd cs
  | [] => []

/-- The doc comment of a description with its line break; nothing for an empty description. -/
def docCommentChars (description : List Char) : List Char :=
  if description.isEmpty then []
  else
    match Text.lines (escapeCommentEnd description) with
    | [line] => "/** ".toList ++ line ++ " */\n".toList
    | ls => Text.unlines (["/**".toList] ++ ls.map (" * ".toList ++ ·) ++ [" */\n".toList])

def docComment (description : String) : String :=
  String.ofList (docCommentChars description.toList)

end SdlPhp.Php
