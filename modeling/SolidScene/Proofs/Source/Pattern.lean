/-
This file writes down the patterns of numerals as regular expressions. A numeral is
put together from a sign, digits, a point and an exponent; a text that is put
together from parts that match matches the product of their patterns.

The two patterns are closed terms over the regular expressions of the library, so
they can be read off without knowing how numerals are made. What the patterns
exclude is the point of them: a zero in front of other digits, a zero as the last
digit behind the point, more than six decimals, a point without decimals, and words.
Of the sign they only say that it may be there; that zero has none is not a matter
of the pattern.
-/
import Mathlib.Computability.RegularExpressions
import SolidScene.Proofs.Decimal.Digits

namespace SolidScene

namespace Pattern

open RegularExpression

/-! ### Numerals -/

/-- One character of a list. -/
def oneOf : List Char → RegularExpression Char
  | [] => 0
  | character :: rest => char character + oneOf rest

/-- A pattern that may be missing. -/
def perhaps (pattern : RegularExpression Char) : RegularExpression Char := 1 + pattern

/-- Any digit. -/
def digit : RegularExpression Char := oneOf Decimal.allDigits

/-- Any digit but the zero. -/
def nonzeroDigit : RegularExpression Char := oneOf Decimal.nonzeroDigits

/-- A numeral without an exponent: no zero is in front of other digits, and none is the last digit
behind the point, of at most six. -/
def fixed : RegularExpression Char :=
  perhaps (char '-') * (char '0' + nonzeroDigit * star digit) *
    perhaps (char '.' * perhaps digit ^ 5 * nonzeroDigit)

/-- A numeral with an exponent, which is positive. -/
def scientific : RegularExpression Char :=
  perhaps (char '-') * nonzeroDigit * perhaps (char '.' * star digit * nonzeroDigit) *
    (char 'e' * char '+') * nonzeroDigit * star digit

/-! ### Texts that match -/

variable {pattern other : RegularExpression Char} {text rest : List Char}

/-- Two texts that match make up one that matches both patterns in turn. -/
theorem append_mem (front : text ∈ pattern.matches') (back : rest ∈ other.matches') :
    text ++ rest ∈ (pattern * other).matches' := by
  rw [matches'_mul]
  exact Language.append_mem_mul front back

theorem mem_char (character : Char) : [character] ∈ (char character).matches' := by
  rw [matches'_char]
  rfl

theorem nil_mem_perhaps (pattern : RegularExpression Char) :
    [] ∈ (perhaps pattern).matches' := by
  rw [perhaps, matches'_add, matches'_epsilon]
  exact Or.inl Language.nil_mem_one

theorem mem_perhaps (inside : text ∈ pattern.matches') : text ∈ (perhaps pattern).matches' := by
  rw [perhaps, matches'_add]
  exact Or.inr inside

theorem mem_oneOf {characters : List Char} {character : Char} (member : character ∈ characters) :
    [character] ∈ (oneOf characters).matches' := by
  induction characters with
  | nil => exact absurd member List.not_mem_nil
  | cons first others inductionHypothesis =>
    rw [oneOf, matches'_add]
    rcases List.mem_cons.mp member with rfl | later
    · exact Or.inl (mem_char character)
    · exact Or.inr (inductionHypothesis later)

theorem mem_digit {character : Char} (isDigit : character.isDigit) :
    [character] ∈ digit.matches' := mem_oneOf (Decimal.mem_allDigits isDigit)

theorem mem_star_digit (digits : ∀ character ∈ text, character.isDigit) :
    text ∈ (star digit).matches' := by
  rw [matches'_star, Language.mem_kstar]
  refine ⟨text.map fun character => [character], ?_, fun single member => ?_⟩
  · rw [← List.flatMap_def, List.flatMap_singleton']
  · obtain ⟨character, inside, rfl⟩ := List.mem_map.mp member
    exact mem_digit (digits character inside)

/-- A bounded number of digits matches as many places, of which some may be left out. -/
theorem mem_perhaps_digit_pow {count : ℕ} (few : text.length ≤ count)
    (digits : ∀ character ∈ text, character.isDigit) :
    text ∈ (perhaps digit ^ count).matches' := by
  rw [matches'_pow]
  induction count generalizing text with
  | zero =>
    rw [List.length_eq_zero_iff.mp (Nat.le_zero.mp few), pow_zero]
    exact Language.nil_mem_one
  | succ count inductionHypothesis =>
    rw [pow_succ']
    cases text with
    | nil =>
      exact Language.append_mem_mul (nil_mem_perhaps digit)
        (inductionHypothesis (Nat.zero_le _) fun _ member => absurd member List.not_mem_nil)
    | cons first others =>
      rw [List.forall_mem_cons] at digits
      exact Language.append_mem_mul (mem_perhaps (mem_digit digits.1))
        (inductionHypothesis (Nat.le_of_succ_le_succ few) digits.2)

/-- A sign that is a minus or missing. -/
def sign (negative : Bool) : List Char := if negative then ['-'] else []

theorem mem_sign (negative : Bool) : sign negative ∈ (perhaps (char '-')).matches' := by
  cases negative
  · exact nil_mem_perhaps _
  · exact mem_perhaps (mem_char '-')

end Pattern

end SolidScene
