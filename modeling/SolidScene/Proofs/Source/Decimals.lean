/-
This file is about numerals without an exponent. They are worth the number of
millionths that they are made from, whatever zeros are left out at their end, and
this number is the one nearest to the number that is written; a number that is
rounded to zero loses its sign.

The proofs keep apart how a count of millionths is written and how a number becomes
such a count. The first is about digits: the whole part, and the fraction with its
zeros at the end taken away, which changes its digits but not its worth. The second
is about rounding, where the count is the rounded quotient of whole numbers and
hence nearest among all multiples of a millionth. The pattern of a numeral follows
from the same two cases, a whole number or one with digits behind the point.
-/
import Mathlib.Tactic.Linarith
import SolidScene.Proofs.Binary64.Interval
import SolidScene.Proofs.Source.Pattern
import SolidScene.Source.Numeral

namespace SolidScene

namespace Source

open Decimal

/-! ### Digits behind the point -/

theorem isDigit_of_mem_fractionDigits {width fraction : ℕ} {character : Char}
    (member : character ∈ fractionDigits width fraction) : character.isDigit := by
  have inside := List.dropWhile_subset _ (List.mem_reverse.mp member)
  rcases List.mem_append.mp (List.mem_reverse.mp inside) with zero | digit
  · rw [List.eq_of_mem_replicate zero]
    rfl
  · exact isDigit_of_mem_toDigits digit

/-- What is left out at the end of digits are zeros. -/
theorem exists_append_replicate (digits : List Char) :
    ∃ zeros, digits = digits.rdropWhile (· = '0') ++ List.replicate zeros '0' := by
  have zero : ∀ character ∈ digits.rtakeWhile (· = '0'), decide (character = '0') = true :=
    fun _ => List.mem_rtakeWhile_imp
  have left : digits.rtakeWhile (· = '0') =
      List.replicate (digits.rtakeWhile (· = '0')).length '0' :=
    List.eq_replicate_of_mem fun character member => of_decide_eq_true (zero character member)
  refine ⟨(digits.rtakeWhile (· = '0')).length, ?_⟩
  rw [← left, List.rdropWhile_append_rtakeWhile]

/-- The digits behind the point are not more than the places, the last one is not zero, and they
spell the fraction but for the zeros that are left out. -/
theorem exists_fractionDigits {width fraction : ℕ} (positive : 0 < fraction)
    (short : fraction < 10 ^ width) :
    ∃ front final zeros, fractionDigits width fraction = front ++ [final] ∧ final ≠ '0' ∧
      front.length + 1 + zeros = width ∧
      Nat.ofDigitChars 10 (front ++ [final]) 0 * 10 ^ zeros = fraction := by
  have room : 0 < width := by
    refine Nat.pos_of_ne_zero fun none => ?_
    rw [none] at short
    omega
  have fits := (Nat.length_toDigits_le_iff (by decide : 1 < 10) room).mpr short
  obtain ⟨padded, same⟩ : ∃ padded, padded =
      List.replicate (width - (Nat.toDigits 10 fraction).length) '0' ++ Nat.toDigits 10 fraction :=
    ⟨_, rfl⟩
  have kept : fractionDigits width fraction = padded.rdropWhile (· = '0') := by
    rw [same]
    rfl
  have length : padded.length = width := by
    rw [same, List.length_append, List.length_replicate]
    omega
  have value : Nat.ofDigitChars 10 padded 0 = fraction := by
    rw [same, Nat.ofDigitChars_append, Nat.ofDigitChars_replicate_zero, Nat.mul_zero,
      Nat.ofDigitChars_ten_toDigits]
  have last := List.rdropWhile_last_not (· = '0') padded
  obtain ⟨zeros, split⟩ := exists_append_replicate padded
  rw [← kept] at last split
  rw [split, Nat.ofDigitChars_append, Nat.ofDigitChars_replicate_zero, Nat.mul_comm] at value
  rw [split, List.length_append, List.length_replicate] at length
  rcases List.eq_nil_or_concat' (fractionDigits width fraction) with empty | ⟨front, final, ends⟩
  · rw [empty, Nat.ofDigitChars_nil, Nat.zero_mul] at value
    exact absurd (value ▸ positive) (Nat.lt_irrefl 0)
  · rw [ends] at value length
    refine ⟨front, final, zeros, ends, ?_, by simpa using length, value⟩
    simpa [ends] using last

/-! ### Numerals without an exponent -/

theorem not_mem_of_isDigit {text : List Char} (digits : ∀ character ∈ text, character.isDigit)
    {mark : Char} (other : mark.isDigit = false) : mark ∉ text := by
  intro member
  rw [digits mark member] at other
  exact Bool.noConfusion other

/-- The numeral of a count of millionths is a whole number, or it has digits behind a point. -/
theorem fixedDigits_cases (count : ℕ) :
    (fixedDigits count = Nat.toDigits 10 (count / 10 ^ 6) ∧ count % 10 ^ 6 = 0) ∨
      ∃ front final zeros, fixedDigits count =
          Nat.toDigits 10 (count / 10 ^ 6) ++ '.' :: (front ++ [final]) ∧
        (∀ character ∈ front ++ [final], character.isDigit) ∧ final ≠ '0' ∧
        front.length + 1 + zeros = 6 ∧
        Nat.ofDigitChars 10 (front ++ [final]) 0 * 10 ^ zeros = count % 10 ^ 6 := by
  rw [fixedDigits, places]
  split_ifs with whole
  · exact Or.inl ⟨rfl, whole⟩
  · obtain ⟨front, final, zeros, digits, nonzero, length, value⟩ :=
      exists_fractionDigits (Nat.pos_of_ne_zero whole) (Nat.mod_lt count (by decide))
    refine Or.inr ⟨front, final, zeros, by rw [digits], ?_, nonzero, length, value⟩
    rw [← digits]
    exact fun character => isDigit_of_mem_fractionDigits

theorem mem_whole (number : ℕ) : Nat.toDigits 10 number ∈ (RegularExpression.char '0' +
    Pattern.nonzeroDigit * RegularExpression.star Pattern.digit).matches' := by
  rw [RegularExpression.matches'_add]
  rcases Nat.eq_zero_or_pos number with rfl | positive
  · exact Or.inl (Pattern.mem_char '0')
  · obtain ⟨first, rest, digits, nonzero⟩ := exists_toDigits_eq_cons positive
    refine Or.inr ?_
    have others : ∀ character ∈ rest, character.isDigit := fun character member =>
      isDigit_of_mem_toDigits (digits ▸ List.mem_cons_of_mem _ member)
    rw [digits, ← List.singleton_append]
    exact Pattern.append_mem (Pattern.mem_oneOf nonzero) (Pattern.mem_star_digit others)

/-- With a sign or without one, the numeral of a count is a decimal literal. -/
theorem mem_fixed (negative : Bool) (count : ℕ) :
    Pattern.sign negative ++ fixedDigits count ∈ Pattern.fixed.matches' := by
  have whole := Pattern.append_mem (Pattern.mem_sign negative) (mem_whole (count / 10 ^ 6))
  rcases fixedDigits_cases count with
    ⟨same, _⟩ | ⟨front, final, zeros, same, digits, nonzero, length, _⟩
  · rw [same, ← List.append_nil (_ ++ _)]
    exact Pattern.append_mem whole (Pattern.nil_mem_perhaps _)
  · rw [List.forall_mem_append] at digits
    have last : [final] ∈ Pattern.nonzeroDigit.matches' :=
      Pattern.mem_oneOf (mem_nonzeroDigits (digits.2 final (List.mem_singleton_self _)) nonzero)
    have fraction := Pattern.append_mem (Pattern.append_mem (Pattern.mem_char '.')
      (Pattern.mem_perhaps_digit_pow (by omega : front.length ≤ 5) digits.1)) last
    have total := Pattern.append_mem whole (Pattern.mem_perhaps fraction)
    rw [List.append_assoc, List.append_assoc ['.'], List.singleton_append] at total
    rwa [same]

/-- A numeral is worth its count of millionths. -/
theorem valueOfUnsigned_fixedDigits (count : ℕ) :
    valueOfUnsigned (fixedDigits count) = count / 10 ^ 6 := by
  have wholeDigits : ∀ character ∈ Nat.toDigits 10 (count / 10 ^ 6), character.isDigit :=
    fun _ => isDigit_of_mem_toDigits
  have split : (count : ℚ) = 10 ^ 6 * (count / 10 ^ 6 : ℕ) + (count % 10 ^ 6 : ℕ) := by
    exact_mod_cast (Nat.div_add_mod count (10 ^ 6)).symm
  rcases fixedDigits_cases count with
    ⟨same, rest⟩ | ⟨front, final, zeros, same, digits, _, length, value⟩
  · rw [same, valueOfUnsigned_of_not_mem (not_mem_of_isDigit wholeDigits rfl),
      valueOfFixed_of_not_mem (not_mem_of_isDigit wholeDigits rfl),
      Nat.ofDigitChars_ten_toDigits, split, rest]
    field_simp
    simp
  · have apart : 'e' ∉ fixedDigits count := by
      rw [same, List.mem_append, List.mem_cons]
      rintro (inside | mark | inside)
      · exact not_mem_of_isDigit wholeDigits rfl inside
      · exact absurd mark (by decide)
      · exact not_mem_of_isDigit digits rfl inside
    have scale : (10 : ℚ) ^ 6 = 10 ^ (front.length + 1) * 10 ^ zeros := by
      rw [← length, pow_add]
    have exact : (Nat.ofDigitChars 10 (front ++ [final]) 0 : ℚ) * 10 ^ zeros =
        (count % 10 ^ 6 : ℕ) := by exact_mod_cast value
    rw [valueOfUnsigned_of_not_mem apart, same,
      valueOfFixed_append_cons (not_mem_of_isDigit wholeDigits rfl), Nat.ofDigitChars_append,
      Nat.ofDigitChars_ten_toDigits, Nat.ofDigitChars_eq_ofDigitChars_zero, split, ← exact, scale]
    rw [List.length_append, List.length_singleton]
    push_cast
    field_simp

/-! ### Signs -/

theorem valueOf_sign_append {text : List Char} (unsigned : '-' ∉ text) (negative : Bool) :
    valueOf (Pattern.sign negative ++ text) = signed negative (valueOfUnsigned text) := by
  cases negative
  · show valueOf text = valueOfUnsigned text
    unfold valueOf
    split
    · exact absurd List.mem_cons_self unsigned
    · rfl
  · rfl

theorem not_mem_fixedDigits (count : ℕ) : '-' ∉ fixedDigits count := by
  have wholeDigits : ∀ character ∈ Nat.toDigits 10 (count / 10 ^ 6), character.isDigit :=
    fun _ => isDigit_of_mem_toDigits
  rcases fixedDigits_cases count with ⟨same, _⟩ | ⟨front, final, _, same, digits, _⟩
  · rw [same]
    exact not_mem_of_isDigit wholeDigits rfl
  · rw [same, List.mem_append, List.mem_cons]
    rintro (inside | mark | inside)
    · exact not_mem_of_isDigit wholeDigits rfl inside
    · exact absurd mark (by decide)
    · exact not_mem_of_isDigit digits rfl inside

-- Nothing below needs the power itself, and it is too large to be worked out.
attribute [local irreducible] Binary64.unitsPerOne

variable {number : Binary64}

/-- Zero has no sign. -/
theorem ite_eq_sign_append (negative : Bool) (count : ℕ) (digits : List Char) :
    (if negative ∧ count ≠ 0 then '-' :: digits else digits) =
      Pattern.sign (negative && count ≠ 0) ++ digits := by
  cases negative
  · simp [Pattern.sign]
  · by_cases none : count = 0 <;> simp [none, Pattern.sign]

/-- Below the bound a numeral is that of its millionths, with a sign unless they are none. -/
theorem numeralDigits_of_lt (small : number.units < 10 ^ 21 * Binary64.unitsPerOne) :
    numeralDigits number =
      Pattern.sign (number.negative && millionths number ≠ 0) ++
        fixedDigits (millionths number) := by
  rw [numeralDigits, exponentFrom, if_neg (Nat.not_le_of_lt small)]
  exact ite_eq_sign_append _ _ _

theorem numeralDigits_of_le (large : 10 ^ 21 * Binary64.unitsPerOne ≤ number.units) :
    numeralDigits number = Pattern.sign number.negative ++ exponentDigits number := by
  rw [numeralDigits, exponentFrom, if_pos large]
  cases number.negative <;> rfl

/-- The numeral of a number that rounds to zero has no sign; its value is the same. -/
theorem valueOf_numeralDigits (small : number.units < 10 ^ 21 * Binary64.unitsPerOne) :
    valueOf (numeralDigits number) = signed number.negative (millionths number / 10 ^ 6) := by
  rw [numeralDigits_of_lt small, valueOf_sign_append (not_mem_fixedDigits _),
    valueOfUnsigned_fixedDigits]
  by_cases none : millionths number = 0
  · simp [none, signed]
  · simp [none]

theorem numeralDigits_ne (small : number.units < 10 ^ 21 * Binary64.unitsPerOne) :
    numeralDigits number ≠ ['-', '0'] := by
  intro same
  have zero : valueOf ['-', '0'] = 0 := by
    have value := valueOf_sign_append (not_mem_fixedDigits 0) true
    rw [valueOfUnsigned_fixedDigits, Nat.cast_zero, zero_div, signed, if_pos rfl, neg_zero] at value
    exact value
  have none : millionths number = 0 := by
    have size := abs_signed number.negative (millionths number / 10 ^ 6)
    rw [← valueOf_numeralDigits small, same, zero, abs_zero, eq_comm, abs_eq_zero] at size
    have nonzero : (10 : ℚ) ^ 6 ≠ 0 := by norm_num
    exact_mod_cast (div_eq_zero_iff.mp size).resolve_right nonzero
  have unsigned : Pattern.sign (number.negative && (0 : ℕ) ≠ 0) = [] := by simp [Pattern.sign]
  rw [numeralDigits_of_lt small, none, unsigned] at same
  exact absurd same (by decide)

/-! ### Six decimals -/

/-- A number, rounded to a whole number of millionths. -/
def roundedMillionths (number : Binary64) : ℤ :=
  if number.negative then -millionths number else millionths number

theorem cast_roundedMillionths (number : Binary64) :
    (roundedMillionths number : ℚ) = signed number.negative (millionths number) := by
  rw [roundedMillionths, signed]
  split_ifs
  · push_cast
    rfl
  · push_cast
    rfl

theorem signed_div (negative : Bool) (magnitude scale : ℚ) :
    signed negative (magnitude / scale) = signed negative magnitude / scale := by
  cases negative
  · rfl
  · exact (neg_div scale magnitude).symm

/-- A number as a part of a million, before it is rounded. -/
theorem value_eq_div (number : Binary64) : number.value =
    signed number.negative ((number.units * 10 ^ 6 : ℕ) / Binary64.unitsPerOne) / 10 ^ 6 := by
  rw [Binary64.value, ← signed_div]
  congr 1
  rw [div_right_comm, Nat.cast_mul, Nat.cast_pow, Nat.cast_ofNat,
    mul_div_cancel_right₀ _ (by norm_num)]

/-- Of all multiples of a millionth this is the nearest one to the number. -/
theorem isNearest_roundedMillionths (number : Binary64) :
    IsNearest (fun _ => True) (fun count : ℤ => (count : ℚ) / 10 ^ 6) Even number.value
      (roundedMillionths number) := by
  have positive := Binary64.unitsPerOne_pos
  obtain ⟨near, tie⟩ :=
    (isRounded_roundDiv (number.units * 10 ^ 6) positive).abs_sub_le positive
  have distance : |(roundedMillionths number : ℚ) -
      signed number.negative ((number.units * 10 ^ 6 : ℕ) / Binary64.unitsPerOne)| =
      |(millionths number : ℚ) - (number.units * 10 ^ 6 : ℕ) / Binary64.unitsPerOne| := by
    rw [cast_roundedMillionths, signed_sub, abs_signed]
  have even (half : Even (millionths number)) : Even (roundedMillionths number) := by
    rw [roundedMillionths]
    split_ifs
    · exact ((Int.even_coe_nat _).mpr half).neg
    · exact (Int.even_coe_nat _).mpr half
  rw [value_eq_div]
  refine isNearest_of_abs_sub_le (by norm_num) ?_ fun half => even (tie ?_)
  · rw [distance]
    exact near
  · rw [distance] at half
    exact half

end Source

end SolidScene
