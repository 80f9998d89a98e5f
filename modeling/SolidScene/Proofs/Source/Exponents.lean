/-
This file is about numerals with an exponent. They spell a decimal that reads back
as the number, with a digit in front of the point that is not zero and none at the
end that is; and the reader of documents, which takes such a numeral apart again,
finds the number.

All that is needed of a large number is put into one record: its digits, the power
of ten behind them, and that the decimal lies in the interval of the number. From
this the pattern, the value and the reading follow without another look at how the
digits were found. The reader is followed through its steps, the digits in front of
the point, those behind it and the exponent, each up to the mark with which the next
one begins.
-/
import Mathlib.Tactic.Linarith
import SolidScene.Json.Token
import SolidScene.Proofs.Binary64.Shortest
import SolidScene.Proofs.Source.Decimals

namespace SolidScene

namespace Source

open Decimal

-- Nothing below needs the power itself, and it is too large to be worked out.
attribute [local irreducible] Binary64.unitsPerOne

variable {number : Binary64}

/-! ### Numerals with an exponent -/

/-- Digits behind a point, if there are any. -/
def pointed : List Char → List Char
  | [] => []
  | digits => '.' :: digits

/-- The digits of the shortest decimal, with a point behind the first, and the exponent. -/
theorem exponentDigits_eq {coefficient exponent : ℕ}
    (shortest : number.shortest = ⟨coefficient, exponent⟩) {first : Char} {rest : List Char}
    (digits : Nat.toDigits 10 coefficient = first :: rest) :
    exponentDigits number =
      first :: pointed rest ++ 'e' :: '+' :: Nat.toDigits 10 (rest.length + exponent) := by
  have place : Decimal.leadingExponent ⟨coefficient, exponent⟩ = (rest.length + exponent : ℕ) := by
    rw [Decimal.leadingExponent, Decimal.digits, digits, List.length_cons]
    push_cast
    ring
  rw [exponentDigits, shortest, Decimal.scientific, Decimal.digits, digits]
  cases rest with
  | nil => simp only [place, Int.toNat_natCast, pointed, List.cons_append]
  | cons second others => simp only [place, Int.toNat_natCast, pointed, List.cons_append]

theorem isDigit_of_mem_nonzeroDigits {character : Char} (member : character ∈ nonzeroDigits) :
    character.isDigit := by
  have all : nonzeroDigits.all Char.isDigit := by decide
  exact List.all_eq_true.mp all character member

/-- Digits with a point behind the first are worth them all, divided by ten for each behind it. -/
theorem valueOfFixed_pointed {first : Char} (leading : first.isDigit) (rest : List Char) :
    valueOfFixed (first :: pointed rest) =
      Nat.ofDigitChars 10 (first :: rest) 0 / 10 ^ rest.length := by
  have apart : '.' ∉ [first] :=
    not_mem_of_isDigit (List.forall_mem_singleton.mpr leading) rfl
  cases rest with
  | nil =>
    rw [pointed, valueOfFixed_of_not_mem apart]
    simp
  | cons second others => exact valueOfFixed_append_cons apart (second :: others)

/-- Digits behind a point match if the last one is not zero. -/
theorem mem_pointed {first : Char} {rest : List Char}
    (digits : ∀ character ∈ rest, character.isDigit)
    (ends : ∃ front final, first :: rest = front ++ [final] ∧ final ≠ '0') :
    pointed rest ∈ (Pattern.perhaps (RegularExpression.char '.' *
      RegularExpression.star Pattern.digit * Pattern.nonzeroDigit)).matches' := by
  obtain ⟨front, final, same, nonzero⟩ := ends
  cases front with
  | nil =>
    obtain ⟨_, rfl⟩ := List.cons.inj same
    exact Pattern.nil_mem_perhaps _
  | cons head middle =>
    obtain rfl : rest = middle ++ [final] := (List.cons.inj same).2
    rw [List.forall_mem_append] at digits
    have last : [final] ∈ Pattern.nonzeroDigit.matches' :=
      Pattern.mem_oneOf (mem_nonzeroDigits (digits.2 final (List.mem_singleton_self _)) nonzero)
    have behind := Pattern.append_mem
      (Pattern.append_mem (Pattern.mem_char '.') (Pattern.mem_star_digit digits.1)) last
    have shown : pointed (middle ++ [final]) = ['.'] ++ middle ++ [final] := by
      cases middle <;> rfl
    rw [shown]
    exact Pattern.mem_perhaps behind

/-- A large number is written with these digits and this power of ten behind them: the first and the
last digit are not zero, and together they are worth a decimal that reads back. -/
structure IsWritten (number : Binary64) (first : Char) (rest : List Char) (exponent : ℕ) :
    Prop where
  digits_eq : exponentDigits number =
    first :: pointed rest ++ 'e' :: '+' :: Nat.toDigits 10 (rest.length + exponent)
  /-- The numeral does not begin with a zero. -/
  first_mem : first ∈ nonzeroDigits
  rest_isDigit : ∀ character ∈ rest, character.isDigit
  /-- Nor do its digits end with one. -/
  ends : ∃ front final, first :: rest = front ++ [final] ∧ final ≠ '0'
  exponent_pos : 0 < exponent
  coefficient_pos : 0 < Nat.ofDigitChars 10 (first :: rest) 0
  reads : number.readsBack
    (4 * (Nat.ofDigitChars 10 (first :: rest) 0 * 10 ^ exponent * Binary64.unitsPerOne)) 1

theorem exists_isWritten (large : 10 ^ 21 * Binary64.unitsPerOne ≤ number.units) :
    ∃ first rest exponent, IsWritten number first rest exponent := by
  obtain ⟨coefficient, exponent, shortest, enough, last, reads⟩ :=
    Binary64.exists_shortest (by decide) large
  have positive : 0 < coefficient := Nat.pos_of_ne_zero fun none => last (by rw [none])
  obtain ⟨first, rest, digits, nonzero⟩ := exists_toDigits_eq_cons positive
  have value : Nat.ofDigitChars 10 (first :: rest) 0 = coefficient := by
    rw [← digits, Nat.ofDigitChars_ten_toDigits]
  refine ⟨first, rest, exponent, exponentDigits_eq shortest digits, nonzero, ?_, ?_, by omega, ?_,
    ?_⟩
  · exact fun character member =>
      isDigit_of_mem_toDigits (digits ▸ List.mem_cons_of_mem _ member)
  · exact digits ▸ exists_toDigits_eq_concat last
  · rwa [value]
  · rwa [value]

namespace IsWritten

variable {first : Char} {rest : List Char} {exponent : ℕ}
  (written : IsWritten number first rest exponent)

include written

theorem first_isDigit : first.isDigit := isDigit_of_mem_nonzeroDigits written.first_mem

theorem not_mem {mark : Char} (other : mark.isDigit = false) (point : mark ≠ '.') :
    mark ∉ first :: pointed rest := by
  have apart : mark ∉ first :: rest :=
    not_mem_of_isDigit (List.forall_mem_cons.mpr ⟨written.first_isDigit, written.rest_isDigit⟩)
      other
  rw [List.mem_cons, not_or] at apart ⊢
  refine ⟨apart.1, ?_⟩
  cases rest with
  | nil => exact List.not_mem_nil
  | cons second others => exact List.not_mem_cons_of_ne_of_not_mem point apart.2

theorem not_mem_exponentDigits : '-' ∉ exponentDigits number := by
  have behind : '-' ∉ Nat.toDigits 10 (rest.length + exponent) :=
    not_mem_of_isDigit (fun _ => isDigit_of_mem_toDigits) rfl
  rw [written.digits_eq, List.mem_append, not_or]
  refine ⟨written.not_mem rfl (by decide), ?_⟩
  simpa using behind

/-- With a sign or without one, the numeral of a large number is a literal with an exponent. -/
theorem mem_scientific (negative : Bool) :
    Pattern.sign negative ++ exponentDigits number ∈ Pattern.scientific.matches' := by
  obtain ⟨leading, others, exponentDigits, leadingNonzero⟩ :=
    exists_toDigits_eq_cons (Nat.add_pos_right rest.length written.exponent_pos)
  have otherDigits : ∀ character ∈ others, character.isDigit := fun character member =>
    isDigit_of_mem_toDigits (exponentDigits ▸ List.mem_cons_of_mem _ member)
  have mantissa := Pattern.append_mem
    (Pattern.append_mem (Pattern.mem_sign negative) (Pattern.mem_oneOf written.first_mem))
    (mem_pointed written.rest_isDigit written.ends)
  have mark := Pattern.append_mem mantissa
    (Pattern.append_mem (Pattern.mem_char 'e') (Pattern.mem_char '+'))
  have total := Pattern.append_mem (Pattern.append_mem mark (Pattern.mem_oneOf leadingNonzero))
    (Pattern.mem_star_digit otherDigits)
  rw [written.digits_eq, exponentDigits]
  simp only [List.append_assoc, List.cons_append, List.nil_append] at total ⊢
  exact total

/-- The numeral of a large number is worth the whole number that its digits and its exponent
make. -/
theorem valueOfUnsigned_exponentDigits : valueOfUnsigned (exponentDigits number) =
    (Nat.ofDigitChars 10 (first :: rest) 0 * 10 ^ exponent : ℕ) := by
  rw [written.digits_eq, valueOfUnsigned_append_cons (written.not_mem rfl (by decide)),
    valueOfFixed_pointed written.first_isDigit, Nat.ofDigitChars_ten_toDigits, pow_add]
  push_cast
  field_simp

end IsWritten

end Source

/-! ### Reading numerals -/

namespace Json

open Decimal Source

theorem scanDigits_append_cons {digits : List Char} (filled : digits ≠ [])
    (all : ∀ character ∈ digits, character.isDigit) {mark : Char} (other : mark.isDigit = false)
    (rest : List Char) : scanDigits (digits ++ mark :: rest) = .ok (digits, mark :: rest) := by
  have split : splitDigits (digits ++ mark :: rest) = (digits, mark :: rest) := by
    rw [splitDigits, List.takeWhile_append_of_pos all, List.dropWhile_append_of_pos all,
      List.takeWhile_cons_of_neg (by simp [other]), List.dropWhile_cons_of_neg (by simp [other]),
      List.append_nil]
  rw [scanDigits, split]
  split
  case h_1 empty => exact absurd (congrArg Prod.fst empty) filled
  case h_2 => rfl

theorem scanDigits_self {digits : List Char} (filled : digits ≠ [])
    (all : ∀ character ∈ digits, character.isDigit) : scanDigits digits = .ok (digits, []) := by
  have split : splitDigits digits = (digits, []) := by
    rw [splitDigits, List.takeWhile_eq_self_iff.mpr all, List.dropWhile_eq_nil_iff.mpr all]
  rw [scanDigits, split]
  split
  case h_1 empty => exact absurd (congrArg Prod.fst empty) filled
  case h_2 => rfl

theorem scanWhole_cons {first : Char} (nonzero : first ∈ nonzeroDigits) {mark : Char}
    (other : mark.isDigit = false) (rest : List Char) :
    scanWhole (first :: mark :: rest) = .ok ([first], mark :: rest) := by
  have leading : ∀ character ∈ [first], character.isDigit :=
    List.forall_mem_singleton.mpr (isDigit_of_mem_nonzeroDigits nonzero)
  have zero : first ≠ '0' := fun same => absurd (same ▸ nonzero) (by decide : '0' ∉ nonzeroDigits)
  rw [scanWhole]
  · exact scanDigits_append_cons (List.cons_ne_nil _ _) leading other rest
  · exact fun _ same => zero (List.cons.inj same).1

/-- A digit, perhaps more of them behind a point, and a mark are read up to the mark. -/
theorem scanWhole_pointed {first : Char} (nonzero : first ∈ nonzeroDigits) {rest : List Char}
    (digits : ∀ character ∈ rest, character.isDigit) (behind : List Char) :
    ∃ fraction after, scanWhole (first :: pointed rest ++ 'e' :: behind) = .ok ([first], after) ∧
      scanFraction after = .ok (fraction, 'e' :: behind) ∧ fraction.getD [] = rest := by
  cases rest with
  | nil => exact ⟨none, _, scanWhole_cons nonzero rfl behind, rfl, rfl⟩
  | cons second others =>
    refine ⟨some (second :: others), _, scanWhole_cons nonzero rfl _, ?_, rfl⟩
    have fraction := scanDigits_append_cons (List.cons_ne_nil second others) digits
      (rfl : 'e'.isDigit = false) behind
    show (scanDigits (second :: others ++ 'e' :: behind) >>= fun read =>
      Except.ok (some read.1, read.2)) = _
    rw [fraction]
    rfl

theorem scanExponent_cons {digits : List Char} (filled : digits ≠ [])
    (all : ∀ character ∈ digits, character.isDigit) :
    scanExponent ('e' :: '+' :: digits) = .ok (some (Nat.ofDigitChars 10 digits 0 : ℤ), []) := by
  simp only [scanExponent, true_or, if_true, scanDigits_self filled all, bind, Except.bind, pure,
    Except.pure]
  rfl

theorem numberOf?_eq_some {negative : Bool} {whole : List Char} {fraction : Option (List Char)}
    {exponent : ℤ} {value : Binary64}
    (found : Binary64.ofDecimal? negative (Nat.ofDigitChars 10 (whole ++ fraction.getD []) 0)
      (exponent - (fraction.getD []).length) = some value) :
    numberOf? negative whole fraction (some exponent) = some (.binary value) := by
  simp only [numberOf?, reduceCtorEq, false_and, and_false, if_false, Option.getD_some, found,
    Option.map_some]

/-- A number is read part by part. -/
theorem scanNumber_sign_append {negative : Bool} {text rest after whole : List Char}
    {fraction : Option (List Char)} {exponent : Option ℤ} {value : Json.Number}
    (unsigned : '-' ∉ text) (first : scanWhole text = .ok (whole, rest))
    (second : scanFraction rest = .ok (fraction, after))
    (third : scanExponent after = .ok (exponent, []))
    (found : numberOf? negative whole fraction exponent = some value) :
    scanNumber (Pattern.sign negative ++ text) = .ok (.number value, []) := by
  cases negative
  · cases text with
    | nil => exact absurd first (by simp [scanWhole, scanDigits, splitDigits])
    | cons head tail =>
      have different : head ≠ '-' := fun same => unsigned (same ▸ List.mem_cons_self)
      simp [scanNumber, Pattern.sign, different, first, second, third, found, bind, Except.bind,
        pure, Except.pure]
  · simp [scanNumber, Pattern.sign, first, second, third, found, bind, Except.bind, pure,
      Except.pure]

/-- The numeral of a large number is read as that number. -/
theorem scanNumber_exponentDigits {number : Binary64} (finite : number.isFinite) {first : Char}
    {rest : List Char} {exponent : ℕ} (written : IsWritten number first rest exponent) :
    scanNumber (Pattern.sign number.negative ++ exponentDigits number) =
      .ok (.number (.binary number), []) := by
  obtain ⟨fraction, after, whole, point, digits⟩ := scanWhole_pointed written.first_mem
    written.rest_isDigit ('+' :: Nat.toDigits 10 (rest.length + exponent))
  have exponentDigits : ∀ character ∈ Nat.toDigits 10 (rest.length + exponent),
      character.isDigit := fun _ => isDigit_of_mem_toDigits
  have last := scanExponent_cons Nat.toDigits_ne_nil exponentDigits
  have place : ((rest.length + exponent : ℕ) : ℤ) - rest.length = exponent := by omega
  refine scanNumber_sign_append written.not_mem_exponentDigits (written.digits_eq ▸ whole) point
    last (numberOf?_eq_some ?_)
  rw [digits, Nat.ofDigitChars_ten_toDigits, place]
  exact Binary64.ofDecimal?_eq_some_of_readsBack finite written.coefficient_pos written.reads

end Json

end SolidScene
