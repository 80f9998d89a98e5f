/-
This file says which characters of the generated source stand for nothing but
themselves. Names and numerals are made of them, so a reader of the source passes
over these without meeting a literal, a comment, a bracket or the end of a line.

A plain text has none of the ten marks of the language. For the names in the source
this is decided by looking at them; for numerals it is proved from the way in which
they are written, character by character: digits, signs, points and the mark of an
exponent, or else the letters of the words for numbers that are not finite. Commas
are no marks here, because not every reader stops at them; that a numeral has none
is shown separately.
-/
import Mathlib.Data.List.Basic
import SolidScene.Source.Numeral

namespace SolidScene.Source

/-- The characters that mean something to a reader of the source: they open or close a literal,
a comment, a group or a line. -/
def marks : List Char := ['"', '/', '(', ')', '[', ']', '\x7b', '\x7d', '\r', '\n']

/-- A text without a character that means something to a reader of the source. -/
def IsPlain (text : String) : Prop := ∀ character ∈ text.toList, character ∉ marks

-- Deciding goes through the characters of the text, not through all characters that there are.
instance (text : String) : Decidable (IsPlain text) :=
  List.decidableBAll (fun character => character ∉ marks) text.toList

theorem IsPlain.append {first second : String} (left : IsPlain first) (right : IsPlain second) :
    IsPlain (first ++ second) := by
  intro character member
  rw [String.toList_append, List.mem_append] at member
  exact member.elim (left character) (right character)

/-! ### Numerals -/

/-- The characters of numerals: digits, the signs, the point and the mark of the exponent. -/
def IsNumeric (character : Char) : Prop := character.isDigit ∨ character ∈ ['-', '.', 'e', '+']

theorem isNumeric_of_mem_toDigits {number : Nat} {character : Char}
    (member : character ∈ Nat.toDigits 10 number) : IsNumeric character :=
  Or.inl (Nat.isDigit_of_mem_toDigits (by decide) (by decide) member)

theorem IsNumeric.not_mem_marks {character : Char} (numeric : IsNumeric character) :
    character ∉ marks := by
  intro member
  rcases numeric with digit | sign
  · have none : ∀ mark ∈ marks, ¬ mark.isDigit := by simp [marks, Char.isDigit]
    exact none character member digit
  · have none : ∀ sign ∈ ['-', '.', 'e', '+'], sign ∉ marks := by simp [marks]
    exact none character sign member

theorem isNumeric_of_mem_fractionDigits {width fraction : Nat} {character : Char}
    (member : character ∈ fractionDigits width fraction) : IsNumeric character := by
  have inside := List.dropWhile_subset _ (List.mem_reverse.mp member)
  rcases List.mem_append.mp (List.mem_reverse.mp inside) with zero | digit
  · rw [List.eq_of_mem_replicate zero]
    exact Or.inl rfl
  · exact isNumeric_of_mem_toDigits digit

theorem isNumeric_of_mem_fixedDigits {count : Nat} {character : Char}
    (member : character ∈ fixedDigits count) : IsNumeric character := by
  rw [fixedDigits] at member
  split at member
  · exact isNumeric_of_mem_toDigits member
  · rcases List.mem_append.mp member with whole | rest
    · exact isNumeric_of_mem_toDigits whole
    · rcases List.mem_cons.mp rest with rfl | fraction
      · exact Or.inr (by decide)
      · exact isNumeric_of_mem_fractionDigits fraction

theorem isNumeric_of_mem_significand {decimal : Decimal} {character : Char}
    (member : character ∈ decimal.scientific.1) : IsNumeric character := by
  have digit {other : Char} (inside : other ∈ decimal.digits) : IsNumeric other :=
    isNumeric_of_mem_toDigits inside
  unfold Decimal.scientific at member
  split at member
  case h_1 => exact absurd member List.not_mem_nil
  case h_2 leading digits =>
    exact digit (by rw [digits]; exact member)
  case h_3 leading rest digits =>
    rcases List.mem_cons.mp member with rfl | later
    · exact digit (by rw [digits]; exact List.mem_cons_self)
    · rcases List.mem_cons.mp later with rfl | behind
      · exact Or.inr (by decide)
      · exact digit (by rw [digits]; exact List.mem_cons_of_mem _ behind)

theorem isNumeric_of_mem_exponentDigits {number : Binary64} {character : Char}
    (member : character ∈ exponentDigits number) : IsNumeric character := by
  rcases List.mem_append.mp member with significand | exponent
  · exact isNumeric_of_mem_significand significand
  · rcases List.mem_cons.mp exponent with rfl | signed
    · exact Or.inr (by decide)
    · rcases List.mem_cons.mp signed with rfl | digit
      · exact Or.inr (by decide)
      · exact isNumeric_of_mem_toDigits digit

/-- The numeral of a finite number is made of such characters. -/
theorem isNumeric_of_mem_numeralDigits {number : Binary64} {character : Char}
    (member : character ∈ numeralDigits number) : IsNumeric character := by
  have signed {digits : List Char} (numeric : ∀ other ∈ digits, IsNumeric other)
      (inside : character ∈ '-' :: digits) : IsNumeric character := by
    rcases List.mem_cons.mp inside with rfl | digit
    · exact Or.inr (by decide)
    · exact numeric character digit
  have fixed : ∀ other ∈ fixedDigits (millionths number), IsNumeric other :=
    fun _ => isNumeric_of_mem_fixedDigits
  have scientific : ∀ other ∈ exponentDigits number, IsNumeric other :=
    fun _ => isNumeric_of_mem_exponentDigits
  unfold numeralDigits at member
  split at member
  · split at member
    · exact signed scientific member
    · exact scientific character member
  · dsimp only at member
    split at member
    · exact signed fixed member
    · exact fixed character member

/-- The letters of the words for numbers that are not finite. -/
def wordLetters : List Char := ['N', 'a', 'i', 'n', 'f']

theorem isNumeric_or_mem_of_mem_numeral {number : Binary64} {character : Char}
    (member : character ∈ (numeral number).toList) :
    IsNumeric character ∨ character ∈ wordLetters := by
  unfold numeral at member
  split_ifs at member
  · exact Or.inl (isNumeric_of_mem_numeralDigits (by simpa using member))
  all_goals
    revert character
    simp [IsNumeric, wordLetters]

/-- A numeral is plain. -/
theorem isPlain_numeral (number : Binary64) : IsPlain (numeral number) := by
  intro character member
  rcases isNumeric_or_mem_of_mem_numeral member with numeric | letter
  · exact numeric.not_mem_marks
  · have none : ∀ letter ∈ wordLetters, letter ∉ marks := by simp [wordLetters, marks]
    exact none character letter

/-- A numeral goes on to its end in a list. -/
theorem comma_not_mem_numeral (number : Binary64) : ',' ∉ (numeral number).toList := by
  intro member
  have neither : ¬ (IsNumeric ',' ∨ ',' ∈ wordLetters) := by simp [IsNumeric, wordLetters]
  exact neither (isNumeric_or_mem_of_mem_numeral member)

end SolidScene.Source
