/-
This file holds the readers from which the grammar of settings documents is put
together. A reader takes characters from the front of a text and gives a value, or
gives up; a choice goes back to where its first alternative began.

Readers are state transformers over the text that is left, and they fail without a
reason, since a document that is not well formed is reported as such and no more.
Repetition stops where the repeated reader gives up or takes nothing, and it is this
second condition that makes the text shorter with every round, so that repeating
ends for every reader. The rest of the file reads what stands between values:
blanks, line ends and comments.
-/

namespace SolidScene.Toml

/-- A reader of the front of a text. -/
abbrev Scan := StateT (List Char) Option

namespace Scan

/-- The next character, if it is one of a class. -/
def one (allowed : Char → Bool) : Scan Char := fun text =>
  match text with
  | character :: rest => if allowed character then some (character, rest) else none
  | [] => none

/-- One given character. -/
def exactly (character : Char) : Scan Unit := do let _ ← one (· = character)

/-- Given characters, one after the other. -/
def word (characters : List Char) : Scan Unit := characters.forM exactly

/-- The longest run of characters of a class. -/
def run (allowed : Char → Bool) : Scan (List Char) := fun text =>
  some (text.takeWhile allowed, text.dropWhile allowed)

/-- The longest run of characters of a class, which must not be empty. -/
def run1 (allowed : Char → Bool) : Scan (List Char) := do
  let found ← run allowed
  guard (found ≠ [])
  return found

/-- A given number of characters of a class. -/
def several (count : Nat) (allowed : Char → Bool) : Scan (List Char) := fun text =>
  let found := (text.take count).takeWhile allowed
  if found.length = count then some (found, text.drop count) else none

/-- The next character, which is not taken. -/
def peek? : Scan (Option Char) := fun text => some (text.head?, text)

/-- Nothing, where the text is at its end. -/
def atEnd : Scan Unit := fun text => if text.isEmpty then some ((), []) else none

/-- What a reader gives, if it does not give up. -/
def maybe {α : Type} (scan : Scan α) : Scan (Option α) := fun text =>
  match scan text with
  | some (value, rest) => some (some value, rest)
  | none => some (none, text)

/-- What a reader gives again and again, until it gives up or takes nothing. -/
def manyFrom {α : Type} (scan : Scan α) (text : List Char) : List α × List Char :=
  match scan text with
  | some (value, rest) =>
    if rest.length < text.length then
      let (values, rest) := manyFrom scan rest
      (value :: values, rest)
    else ([], text)
  | none => ([], text)
termination_by text.length

/-- What a reader gives again and again, until it gives up or takes nothing. -/
def many {α : Type} (scan : Scan α) : Scan (List α) := fun text => some (manyFrom scan text)

/-- What a reader gives again and again, with a separator in between; perhaps nothing at all. A
separator without an item behind it is not taken. -/
def separated {α : Type} (scan : Scan α) (separator : Scan Unit) : Scan (List α) := do
  match ← maybe scan with
  | none => return []
  | some first => return first :: (← many (do separator; scan))

end Scan

/-! ### Blanks, line ends and comments -/

open Scan

/-- A space or a tab. -/
def isBlank (character : Char) : Bool := character = ' ' || character = '\t'

/-- A character that may stand in a comment or in a literal string, where it has no meaning. -/
def isPlain (character : Char) : Bool :=
  character = '\t' || (0x20 ≤ character.toNat && character.toNat ≠ 0x7f)

/-- Blanks on a line, or none. -/
def blanks : Scan Unit := do let _ ← run isBlank

/-- A line end: a line feed, alone or behind a carriage return. -/
def newline : Scan Unit := exactly '\n' <|> word ['\r', '\n']

/-- A comment up to the end of its line. -/
def comment : Scan Unit := do
  exactly '#'
  let _ ← run isPlain

/-- Blanks, comments and line ends, or none. -/
def blankLines : Scan Unit := do
  let _ ← many ((do let _ ← run1 isBlank) <|> newline <|> (do comment; newline))

/-- What may stand behind a value or a header up to the end of its line. -/
def lineEnd : Scan Unit := do
  blanks
  let _ ← maybe comment
  newline <|> atEnd

end SolidScene.Toml
