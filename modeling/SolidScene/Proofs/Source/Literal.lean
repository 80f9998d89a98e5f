/-
This file reads string literals back. A reader that takes the four escapes for one
character each and stops at the first bare quote finds the text of a literal and
what comes after it, whatever the two are. So a literal says where it ends, and two
texts have two literals.

A literal is written character by character. Replacing each of the four characters
in the whole text, one after the other, gives the same, but only because backslashes
come first: the later replacements bring backslashes of their own. The reader knows
nothing of the writer; it takes the notation apart as its rules say. That a literal
stays on its line is a matter of the single escapes, none of which has a line break.
-/
import Mathlib.Data.List.Basic
import SolidScene.Source.Quoted

namespace SolidScene.Source

/-! ### Replacing one character after the other -/

/-- A text with a replacement in the place of every `target`. -/
def replaced (target : Char) (replacement text : List Char) : List Char :=
  text.flatMap fun character => if character = target then replacement else [character]

/-- A text with its backslashes doubled and then a backslash in front of every quote and every
line break, which are named by a letter. -/
def escapedInPasses (text : List Char) : List Char :=
  replaced '\n' ['\\', 'n'] (replaced '\r' ['\\', 'r']
    (replaced '"' ['\\', '"'] (replaced '\\' ['\\', '\\'] text)))

/-- The passes make one pass, in which each character is escaped by itself. -/
theorem escapedInPasses_eq_quotedBody (text : List Char) :
    escapedInPasses text = quotedBody text := by
  simp only [escapedInPasses, replaced, quotedBody, List.flatMap_assoc]
  refine List.flatMap_congr fun character _ => ?_
  unfold quotedCharacter
  split_ifs <;> simp_all

/-! ### Reading -/

/-- The character that a letter behind a backslash stands for. -/
def escaped? (letter : Char) : Option Char :=
  if letter = '\\' then some '\\'
  else if letter = '"' then some '"'
  else if letter = 'r' then some '\r'
  else if letter = 'n' then some '\n'
  else none

/-- The text of a literal whose opening quote was read, and what comes after its closing one. A
literal that is not closed has no text, and neither has one with any other escape. -/
def readQuoted? : List Char → Option (List Char × List Char)
  | [] => none
  | '\\' :: letter :: rest => do
    let character ← escaped? letter
    let (text, behind) ← readQuoted? rest
    return (character :: text, behind)
  | character :: rest =>
    if character = '"' then some ([], rest)
    else if character = '\\' then none
    else do
      let (text, behind) ← readQuoted? rest
      return (character :: text, behind)

/-- The text of the literal at the front of a source, and what comes after it. -/
def readLiteral? (source : String) : Option (String × String) :=
  match source.toList with
  | '"' :: inside =>
    (readQuoted? inside).map fun (text, behind) => (String.ofList text, String.ofList behind)
  | _ => none

/-- An escape is read as its character. -/
theorem readQuoted?_escape {letter character : Char} (known : escaped? letter = some character)
    (rest : List Char) :
    readQuoted? ('\\' :: letter :: rest) =
      (readQuoted? rest).map fun (text, behind) => (character :: text, behind) := by
  rw [readQuoted?, known]
  cases readQuoted? rest <;> rfl

/-- A character that is neither a quote nor a backslash is read as itself. -/
theorem readQuoted?_cons {character : Char} (noQuote : character ≠ '"')
    (noBackslash : character ≠ '\\') (rest : List Char) :
    readQuoted? (character :: rest) =
      (readQuoted? rest).map fun (text, behind) => (character :: text, behind) := by
  rw [readQuoted?.eq_3 _ _ fun letter later first => absurd first noBackslash, if_neg noQuote,
    if_neg noBackslash]
  cases readQuoted? rest <;> rfl

theorem readQuoted?_quotedCharacter_append (character : Char) (rest : List Char) :
    readQuoted? (quotedCharacter character ++ rest) =
      (readQuoted? rest).map fun (text, behind) => (character :: text, behind) := by
  unfold quotedCharacter
  split_ifs with backslash quote first second
  · subst backslash
    exact readQuoted?_escape rfl rest
  · subst quote
    exact readQuoted?_escape rfl rest
  · subst first
    exact readQuoted?_escape rfl rest
  · subst second
    exact readQuoted?_escape rfl rest
  · exact readQuoted?_cons quote backslash rest

theorem quotedBody_cons (character : Char) (text : List Char) :
    quotedBody (character :: text) = quotedCharacter character ++ quotedBody text :=
  List.flatMap_cons ..

/-- What stands between the quotes of a literal is read up to the closing quote. -/
theorem readQuoted?_quotedBody_append (text behind : List Char) :
    readQuoted? (quotedBody text ++ '"' :: behind) = some (text, behind) := by
  induction text with
  | nil => rfl
  | cons character text inductionHypothesis =>
    rw [quotedBody_cons, List.append_assoc, readQuoted?_quotedCharacter_append,
      inductionHypothesis]
    rfl

/-- A literal is what is written for its text, between two quotes. -/
theorem toList_quote (text : String) :
    (quote text).toList = '"' :: (quotedBody text.toList ++ ['"']) := by
  simp [quote]

/-- A literal is read in front of any text. -/
theorem readLiteral?_quote_append (text behind : String) :
    readLiteral? (quote text ++ behind) = some (text, behind) := by
  have source : (quote text ++ behind).toList =
      '"' :: (quotedBody text.toList ++ '"' :: behind.toList) := by
    rw [String.toList_append, toList_quote, List.cons_append, List.append_assoc,
      List.singleton_append]
  rw [readLiteral?, source]
  simp only [readQuoted?_quotedBody_append, Option.map_some, String.ofList_toList]

/-- A literal with nothing behind it is read, too, so different texts have different literals. -/
theorem quote_injective : Function.Injective quote := by
  intro text other same
  have read (text : String) : readLiteral? (quote text) = some (text, "") := by
    rw [← readLiteral?_quote_append, String.append_empty]
  have both := read text
  rw [same, read other, Option.some.injEq, Prod.mk.injEq] at both
  exact both.1.symm

/-! ### Literals on one line -/

/-- No escape has a line break in it. -/
theorem not_isBreak_of_mem_quotedCharacter {character inside : Char}
    (member : inside ∈ quotedCharacter character) : inside ≠ '\r' ∧ inside ≠ '\n' := by
  unfold quotedCharacter at member
  split_ifs at member with backslash quote first second
  case neg =>
    rw [List.mem_singleton.mp member]
    exact ⟨first, second⟩
  all_goals
    simp only [List.mem_cons, List.not_mem_nil, or_false] at member
    rcases member with rfl | rfl <;> decide

theorem not_isBreak_of_mem_quote {text : String} {inside : Char}
    (member : inside ∈ (quote text).toList) : inside ≠ '\r' ∧ inside ≠ '\n' := by
  rw [toList_quote, List.mem_cons, List.mem_append, List.mem_singleton] at member
  rcases member with rfl | body | rfl
  · decide
  · obtain ⟨character, -, escaped⟩ := List.mem_flatMap.mp body
    exact not_isBreak_of_mem_quotedCharacter escaped
  · decide

/-- The literal of a text is the text with four characters replaced, one after the other in the
whole text, between two quotes. A reader finds the text in it, and what comes after it, whatever
that is; and it stands on one line. -/
theorem literal_reads_back (text behind : String) :
    quote text = String.ofList ('"' :: escapedInPasses text.toList ++ ['"']) ∧
      readLiteral? (quote text ++ behind) = some (text, behind) ∧
      '\r' ∉ (quote text).toList ∧ '\n' ∉ (quote text).toList := by
  refine ⟨?_, readLiteral?_quote_append text behind,
    fun member => (not_isBreak_of_mem_quote member).1 rfl,
    fun member => (not_isBreak_of_mem_quote member).2 rfl⟩
  rw [escapedInPasses_eq_quotedBody, List.cons_append, ← toList_quote, String.ofList_toList]

-- A backslash at the end would take the closing quote with it if it were not doubled.
example : readLiteral? (quote "a\\" ++ "\"") = some ("a\\", "\"") := by cbv

end SolidScene.Source
