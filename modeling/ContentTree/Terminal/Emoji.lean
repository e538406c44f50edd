import ContentTree.Terminal.EmojiTable
import ContentTree.Text.Blank
import ContentTree.Text.LowerCase
/-!
Emoji codes: a name between two colons stands for the emoji of that name. The name may be followed
by the presentation that is wanted. A code without an emoji stays as it is.
-/

set_option autoImplicit false
set_option relaxedAutoImplicit false

namespace ContentTree.Terminal

open ContentTree.Text

/-- The character that asks for text presentation. -/
def textPresentation : Char := '\uFE0E'

/-- The character that asks for emoji presentation. -/
def emojiPresentation : Char := '\uFE0F'

/-- Splits a code into a name and the characters that ask for a presentation. -/
def splitPresentation (code : List Char) : List Char × List Char :=
  let cut (ending : String) : Option (List Char) :=
    if ending.toList.isSuffixOf code then some (code.take (code.length - ending.length)) else none
  match cut "-emoji", cut "-text" with
  | some name, _ => (name, [emojiPresentation])
  | none, some name => (name, [textPresentation])
  | none, none => (code, [])

/-- The emoji for a code. -/
def emojiFor? (code : List Char) : Option (List Char) :=
  let (name, presentation) := splitPresentation code
  (emojiTable.lookup (lowered (String.ofList name))).map fun emoji =>
    emoji.toList ++ presentation

/-- The code at the front of a text behind its first colon: the characters up to the next colon,
if no blank is among them. -/
def codeAt? (text : List Char) : Option (List Char) :=
  let code := text.takeWhile fun c => c != ':' && !isBlank c
  if (text.drop code.length).head? = some ':' then some code else none

/-- The text with emoji in place of their codes. -/
def replaceEmoji : List Char → List Char
  | [] => []
  | c :: rest =>
    if c = ':' then
      match codeAt? rest with
      | some code =>
        (emojiFor? code).getD (':' :: code ++ [':']) ++ replaceEmoji (rest.drop (code.length + 1))
      | none => c :: replaceEmoji rest
    else c :: replaceEmoji rest
  termination_by text => text.length
  decreasing_by all_goals simp only [List.length_drop, List.length_cons]; omega

end ContentTree.Terminal
