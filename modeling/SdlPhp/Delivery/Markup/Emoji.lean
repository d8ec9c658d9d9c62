import SdlPhp.Delivery.Markup.EmojiTable
import SdlPhp.Entries
import SdlPhp.Text.Blank
import SdlPhp.Text.LowerCase
import SdlPhp.Text.Pieces

/-!
# Emojis in texts

A name between colons, without blanks, stands for an emoji. Behind the name, `-text` and `-emoji`
ask for one of the two ways to show it. A name that is not known stays as it is, with both its
colons.
-/

namespace SdlPhp.Markup

/-- The items two by two. -/
def twoByTwo {α : Type} : List α → List (α × α)
  | a :: b :: rest => (a, b) :: twoByTwo rest
  | _ => []

/-- The emojis under their names. -/
def emojis : Entries String :=
  emojiLines.flatMap fun line => twoByTwo ((Text.pieces ' ' line.toList).map String.ofList)

/-- The ways to show an emoji, with the character that asks for them. -/
def variants : List (List Char × Char) :=
  [("-text".toList, '\uFE0E'), ("-emoji".toList, '\uFE0F')]

/-- The name without the way to show it, and the character that asks for this. -/
def cutVariant (name : List Char) : List Char × List Char :=
  match variants.find? fun v => v.1.isSuffixOf name with
  | some (ending, selector) => (name.take (name.length - ending.length), [selector])
  | none => (name, [])

/-- The emoji that a text between colons stands for. -/
def emoji? (code : List Char) : Option (List Char) :=
  let (name, selector) := cutVariant code
  (emojis.get? (String.ofList (Text.lowerCase name))).map (·.toList ++ selector)

/-- The text with the emojis in the place of their names. -/
def withEmojis (cs : List Char) : List Char :=
  match cs with
  | [] => []
  | c :: cs =>
    if c = ':' then
      match h : cs.dropWhile (· ≠ ':') with
      | _ :: rest =>
        let code := cs.takeWhile (· ≠ ':')
        have : rest.length < cs.length := by
          have := (List.dropWhile_sublist (· ≠ ':') (l := cs)).length_le
          rw [h] at this
          exact this
        if code.any Text.isBlank then c :: withEmojis cs
        else ((emoji? code).getD (':' :: code ++ [':'])) ++ withEmojis rest
      | [] => c :: cs
    else c :: withEmojis cs
termination_by cs.length

end SdlPhp.Markup
