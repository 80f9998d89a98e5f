/-
This file writes string literals of the solid modelling language. A backslash, a
quote and the two line breaks are written with a backslash in front, so that a
literal stays on its line and ends at its first bare quote; every other character
stands for itself.

Each character is replaced on its own, in one pass from left to right. That is all
that the proofs about literals need: what is between the quotes is made of blocks,
one for each character of the text, and a block of two characters always begins with
a backslash. A reader that takes the blocks apart in the same order gets the text
back.
-/

namespace SolidScene.Source

/-- A character as it stands between the quotes of a literal. -/
def quotedCharacter (character : Char) : List Char :=
  if character = '\\' then ['\\', '\\']
  else if character = '"' then ['\\', '"']
  else if character = '\r' then ['\\', 'r']
  else if character = '\n' then ['\\', 'n']
  else [character]

/-- The characters between the quotes of a literal. -/
def quotedBody (text : List Char) : List Char := text.flatMap quotedCharacter

/-- The string literal of a text. -/
def quote (text : String) : String :=
  "\"" ++ String.ofList (quotedBody text.toList) ++ "\""

end SolidScene.Source
