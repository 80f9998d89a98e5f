/-
This file treats the types whose values are named by the words of a fixed list: the
kinds of nodes and the three choices a text makes. A word is read by a search
through the list, so the list is all that such a type has to give beside the words,
and it is also what a message tells the user to choose from.

The search finds a value only under its own word. That each value is also found
under its word needs the words to differ and the list to be complete; the class does
not ask for that, and the types prove it where typed nodes are read back.
-/

namespace SolidScene

/-- A type whose values are the words of a fixed list. -/
class Keyword (α : Type) where
  /-- The values, in the order in which they are listed to a user. -/
  all : List α
  /-- The word of a value. -/
  word : α → String

namespace Keyword

variable {α : Type} [Keyword α]

/-- The value of a word, if it is one of the list. -/
def ofWord? (word : String) : Option α :=
  (all (α := α)).find? fun value => Keyword.word value = word

/-- The words of a type, in the order of its values. -/
def words (α : Type) [Keyword α] : List String := (all (α := α)).map Keyword.word

/-- A value is found under a word only if the word is its own. -/
theorem word_of_ofWord? {word : String} {value : α} (found : ofWord? word = some value) :
    Keyword.word value = word := by
  simpa using List.find?_some found

end Keyword

end SolidScene
