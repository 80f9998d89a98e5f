/-
This file shows a text inside a message: between quotes, on one line, with every
character that a reader could not see replaced by its code point. Messages quote
texts that come from the user, and such a text may hold line breaks, direction marks
or characters that look like nothing at all; none of them reaches the terminal as it
is. Inside the range of seven bits the printable characters are known by their
numbers, and outside of it a table decides.

A text that is shown is not a literal of the solid modelling language, which escapes
four characters only and passes the invisible ones through.
-/
import SolidScene.Text.Visible

namespace SolidScene.Text

/-- A character by its code point, in braces behind a backslash. -/
def codePoint (character : Char) : List Char :=
  '\\' :: 'u' :: '\x7b' :: Nat.toDigits 16 character.toNat ++ ['\x7d']

/-- A character as it is shown: some have a letter of their own behind a backslash, and the
invisible ones show their code point. -/
def shownCharacter (character : Char) : List Char :=
  if character = '"' then ['\\', '"']
  else if character = '\\' then ['\\', '\\']
  else if character = '\n' then ['\\', 'n']
  else if character = '\r' then ['\\', 'r']
  else if character = '\t' then ['\\', 't']
  else if character.toNat = 0 then ['\\', '0']
  else if character.toNat < 0x20 ∨ character.toNat = 0x7f then codePoint character
  else if character.toNat < 0x80 ∨ isVisible character then [character]
  else codePoint character

/-- A text as it is shown, between quotes. -/
def shown (text : String) : String :=
  "\"" ++ String.ofList (text.toList.flatMap shownCharacter) ++ "\""

end SolidScene.Text
