import SdlPhp.Delivery.Markup

/-!
# Tables

A table of two columns on the console. The second column is as wide as the widest line of its
texts, where every kind of line break counts; the first one has no bounds.
-/

namespace SdlPhp

/-- A title, and rows of two texts with markup. -/
structure Table where
  title : String
  rows : List (String × String)
  deriving DecidableEq, Repr

namespace Table

/-- The width of the widest line of a text. -/
def textWidth (cs : List Char) : Nat :=
  ((Text.splitLines cs).map fun line => Text.cells (Text.codePoints line)).foldl max 0

/-- The width of a column with these texts. -/
def columnWidth (texts : List Markup.Shown) : Nat := (texts.map (textWidth ·.text)).foldl max 0

/-- The lines of a row, the first of which starts with the text of the first column. -/
def rowText (width : Nat) (row : Markup.Shown × Markup.Shown) : Except Markup.Fault String := do
  let first ← row.1.lines none
  let second ← row.2.lines (some width)
  return String.ofList (Text.unlines first ++ ' ' :: Text.unlines second)

/-- The lines that are shown of a table. The markup of all the texts is read before any of them is
shown. -/
def lines (t : Table) : Except Markup.Fault (List String) := do
  let firsts ← t.rows.mapM fun r => Markup.shown r.1
  let seconds ← t.rows.mapM fun r => Markup.shown r.2
  let rows ← (firsts.zip seconds).mapM (rowText (columnWidth seconds))
  return (t.title :: rows).flatMap Markup.textLines

end Table

end SdlPhp
