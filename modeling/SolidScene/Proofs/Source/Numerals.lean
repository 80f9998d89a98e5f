/-
This file says what the numerals of finite numbers are. Below `10 ^ 21` a numeral is
the number rounded to six decimals, and exact where the number is a whole one; from
there on of all numbers the one that is written is nearest to the numeral.

It puts together what the files on the two forms of numerals prove, in terms of the
exact values of numbers: the form is decided by the size of the value, the numeral
matches one of two regular expressions, and what it is worth is compared with the
value among all multiples of a millionth or among all finite numbers. The words for
what is not finite have letters that no numeral has, so it can be seen in the text
that no such number was written.
-/
import SolidScene.Proofs.Source.Exponents
import SolidScene.Proofs.Source.Plain

namespace SolidScene

namespace Source

open Decimal

-- Nothing below needs the power itself, and it is too large to be worked out.
attribute [local irreducible] Binary64.unitsPerOne

theorem toList_numeral {number : Binary64} (finite : number.isFinite) :
    (numeral number).toList = numeralDigits number := by
  rw [numeral, if_pos finite, String.toList_ofList]

/-! ### Small numbers -/

theorem numeralDigits_mem_fixed {number : Binary64}
    (small : number.units < 10 ^ 21 * Binary64.unitsPerOne) :
    numeralDigits number ∈ Pattern.fixed.matches' := by
  rw [numeralDigits_of_lt small]
  exact mem_fixed _ _

/-- The numeral of a small number is worth the number of millionths that the number is rounded
to. -/
theorem valueOf_numeralDigits_eq_div {number : Binary64}
    (small : number.units < 10 ^ 21 * Binary64.unitsPerOne) :
    valueOf (numeralDigits number) = roundedMillionths number / 10 ^ 6 := by
  rw [valueOf_numeralDigits small, cast_roundedMillionths, signed_div]

/-- A whole number is a multiple of a millionth, so its numeral is exact. -/
theorem valueOf_numeralDigits_of_whole {number : Binary64}
    (small : number.units < 10 ^ 21 * Binary64.unitsPerOne) {whole : ℤ}
    (exact : number.value = whole) : valueOf (numeralDigits number) = whole := by
  have near := (isNearest_roundedMillionths number).le (whole * 10 ^ 6) trivial
  have multiple : ((whole * 10 ^ 6 : ℤ) : ℚ) / 10 ^ 6 = whole := by
    rw [Int.cast_mul, Int.cast_pow, Int.cast_ofNat, mul_div_cancel_right₀ _ (by norm_num)]
  rw [multiple, exact, sub_self, abs_zero] at near
  rw [valueOf_numeralDigits_eq_div small]
  exact sub_eq_zero.mp (abs_eq_zero.mp (le_antisymm near (abs_nonneg _)))

/-! ### Large numbers -/

theorem numeralDigits_mem_scientific {number : Binary64}
    (large : 10 ^ 21 * Binary64.unitsPerOne ≤ number.units) :
    numeralDigits number ∈ Pattern.scientific.matches' := by
  obtain ⟨first, rest, exponent, written⟩ := exists_isWritten large
  rw [numeralDigits_of_le large]
  exact written.mem_scientific _

/-- The numeral of a large number is in its interval, so the number is the nearest one to it. -/
theorem isNearest_valueOf_numeralDigits {number : Binary64} (finite : number.isFinite)
    (large : 10 ^ 21 * Binary64.unitsPerOne ≤ number.units) :
    IsNearest (fun other : Binary64 => other.isFinite) Binary64.value
      (fun other => Even other.significand) (valueOf (numeralDigits number)) number := by
  obtain ⟨first, rest, exponent, written⟩ := exists_isWritten large
  have one : (Binary64.unitsPerOne : ℚ) ≠ 0 := by exact_mod_cast Binary64.unitsPerOne_pos.ne'
  have value : valueOf (numeralDigits number) = signed number.negative
      ((4 * (Nat.ofDigitChars 10 (first :: rest) 0 * 10 ^ exponent * Binary64.unitsPerOne) : ℕ) /
        (4 * (1 : ℕ)) / Binary64.unitsPerOne) := by
    rw [numeralDigits_of_le large, valueOf_sign_append written.not_mem_exponentDigits,
      written.valueOfUnsigned_exponentDigits]
    congr 1
    push_cast
    field_simp
  rw [value]
  exact Binary64.isNearest_of_readsBack finite (by decide) written.reads

/-! ### All numbers -/

/-- The numeral of a finite number is a decimal literal of one of two forms. -/
theorem mem_fixed_or_scientific {number : Binary64} (finite : number.isFinite) :
    (numeral number).toList ∈ Pattern.fixed.matches' ∨
      (numeral number).toList ∈ Pattern.scientific.matches' := by
  rw [toList_numeral finite]
  rcases Nat.lt_or_ge number.units (10 ^ 21 * Binary64.unitsPerOne) with small | large
  · exact Or.inl (numeralDigits_mem_fixed small)
  · exact Or.inr (numeralDigits_mem_scientific large)

/-- What is written for an infinity or for what is not a number. -/
def nonfinite : List String := ["NaN", "inf", "-inf"]

/-- Only numbers that are not finite are written by a word, since a word has letters. -/
theorem numeral_mem_nonfinite_iff {number : Binary64} :
    numeral number ∈ nonfinite ↔ ¬ number.isFinite := by
  constructor
  · intro member finite
    have letters : ∀ word ∈ nonfinite, ∃ letter ∈ word.toList, ¬ IsNumeric letter := by
      simp [nonfinite, IsNumeric]
    obtain ⟨letter, inside, other⟩ := letters _ member
    rw [toList_numeral finite] at inside
    exact other (isNumeric_of_mem_numeralDigits inside)
  · intro other
    rw [numeral, if_neg other]
    split_ifs <;> simp [nonfinite]

theorem abs_value_lt_iff {number : Binary64} {bound : ℕ} :
    |number.value| < bound ↔ number.units < bound * Binary64.unitsPerOne := by
  have one : (0 : ℚ) < Binary64.unitsPerOne := by exact_mod_cast Binary64.unitsPerOne_pos
  rw [Binary64.abs_value, div_lt_iff₀ one]
  exact_mod_cast Iff.rfl

/-- The numeral of a finite number. Below `10 ^ 21` it has at most six decimals, no zeros that could
be left out and no sign if it is zero, and it is worth the multiple of a millionth that is nearest
to the number, a tie going to the even last digit; where the number is whole it is worth the number.
From there on it has an exponent and no zeros that could be left out, of all finite numbers the one
that is written is nearest to what it is worth, a tie going to the even significand, and the reader
of documents finds that number. -/
theorem numeral_of_isFinite {number : Binary64} (finite : number.isFinite) :
    (|number.value| < 10 ^ 21 →
      (numeral number).toList ∈ Pattern.fixed.matches' ∧ numeral number ≠ "-0" ∧
      (∃ count : ℤ, valueOf (numeral number).toList = count / 10 ^ 6 ∧
        IsNearest (fun _ => True) (fun other : ℤ => (other : ℚ) / 10 ^ 6) Even number.value
          count) ∧
      ∀ whole : ℤ, number.value = whole → valueOf (numeral number).toList = whole) ∧
    (10 ^ 21 ≤ |number.value| →
      (numeral number).toList ∈ Pattern.scientific.matches' ∧
      IsNearest (fun other : Binary64 => other.isFinite) Binary64.value
        (fun other => Even other.significand) (valueOf (numeral number).toList) number ∧
      Json.scanNumber (numeral number).toList = .ok (.number (.binary number), [])) := by
  have range : |number.value| < 10 ^ 21 ↔ number.units < 10 ^ 21 * Binary64.unitsPerOne := by
    rw [← abs_value_lt_iff, Nat.cast_pow, Nat.cast_ofNat]
  rw [toList_numeral finite]
  constructor
  · intro less
    have small := range.mp less
    refine ⟨numeralDigits_mem_fixed small, fun same => numeralDigits_ne small ?_, ?_,
      fun whole exact => valueOf_numeralDigits_of_whole small exact⟩
    · rw [← toList_numeral finite, same]
      rfl
    · exact ⟨roundedMillionths number, valueOf_numeralDigits_eq_div small,
        isNearest_roundedMillionths number⟩
  · intro more
    have large : 10 ^ 21 * Binary64.unitsPerOne ≤ number.units :=
      Nat.le_of_not_lt (range.not.mp (not_lt.mpr more))
    obtain ⟨first, rest, exponent, written⟩ := exists_isWritten large
    refine ⟨numeralDigits_mem_scientific large, isNearest_valueOf_numeralDigits finite large, ?_⟩
    rw [numeralDigits_of_le large]
    exact Json.scanNumber_exponentDigits finite written

/-- The largest of the negative numbers has a numeral without a sign, and the numeral of `2 ^ 70` is
read as that number. -/
theorem numeral_of_isFinite_least_and_large :
    numeral ⟨true, 0, 1, by decide, by decide⟩ ≠ "-0" ∧
      Json.scanNumber (numeral ⟨false, 1093, 0, by decide, by decide⟩).toList =
        .ok (.number (.binary ⟨false, 1093, 0, by decide, by decide⟩), []) := by
  have less : |(⟨true, 0, 1, by decide, by decide⟩ : Binary64).value| < (10 ^ 21 : ℕ) :=
    abs_value_lt_iff.mpr (by decide +kernel)
  have more : ¬ |(⟨false, 1093, 0, by decide, by decide⟩ : Binary64).value| < (10 ^ 21 : ℕ) :=
    abs_value_lt_iff.not.mpr (by decide +kernel)
  rw [Nat.cast_pow, Nat.cast_ofNat] at less more
  exact ⟨((numeral_of_isFinite (by decide)).1 less).2.1,
    ((numeral_of_isFinite (by decide)).2 (not_lt.mp more)).2.2⟩

end Source

end SolidScene
