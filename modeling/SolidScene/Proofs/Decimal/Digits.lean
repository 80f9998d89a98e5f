/-
This file is about the digits of whole numbers and about what a numeral is worth.
The digits of a positive number begin with one that is not zero, and they end with
such a one if the number has no zero at its end. A numeral is worth the number that
its digits spell, divided by ten for each digit behind the point, and multiplied by
the power of ten that its exponent tells.

The value is defined on any text and reads nothing of how numerals are written: it
looks for the mark of the exponent, then for the point, and takes the digits that
are left. So a statement about the value of a generated numeral says that a reader
who knows only the notation gets the number. The equations at the end give the value
part by part, for texts of which it is known where the marks are.
-/
import Mathlib.Data.List.DropRight
import Mathlib.Data.Rat.Cast.Order
import Mathlib.Tactic.FieldSimp
import Mathlib.Tactic.IntervalCases
import Mathlib.Tactic.Ring
import SolidScene.Binary64.Shortest

namespace SolidScene

namespace Decimal

/-! ### Digits -/

/-- The digits that are not zero. -/
def nonzeroDigits : List Char := ['1', '2', '3', '4', '5', '6', '7', '8', '9']

/-- The ten digits. -/
def allDigits : List Char := '0' :: nonzeroDigits

theorem mem_allDigits {character : Char} (digit : character.isDigit) : character ∈ allDigits := by
  obtain ⟨least, most⟩ := Char.isDigit_iff_toNat.mp digit
  change 48 ≤ character.toNat at least
  change character.toNat ≤ 57 at most
  have same : character = Char.ofNat character.toNat := (Char.ofNat_toNat character).symm
  rw [same]
  generalize character.toNat = code at least most
  interval_cases code <;> decide

theorem mem_nonzeroDigits {character : Char} (digit : character.isDigit)
    (nonzero : character ≠ '0') : character ∈ nonzeroDigits :=
  (List.mem_cons.mp (mem_allDigits digit)).resolve_left nonzero

theorem isDigit_of_mem_toDigits {number : ℕ} {character : Char}
    (member : character ∈ Nat.toDigits 10 number) : character.isDigit :=
  Nat.isDigit_of_mem_toDigits (by decide) (by decide) member

/-- The digits of a positive number begin with one that is not zero. -/
theorem exists_toDigits_eq_cons {number : ℕ} (positive : 0 < number) :
    ∃ first rest, Nat.toDigits 10 number = first :: rest ∧ first ∈ nonzeroDigits := by
  induction number using Nat.strong_induction_on with
  | _ number inductionHypothesis =>
    rw [Nat.toDigits_eq_if (by decide)]
    split_ifs with short
    · refine ⟨_, [], rfl, ?_⟩
      interval_cases number <;> decide
    · obtain ⟨first, rest, digits, nonzero⟩ :=
        inductionHypothesis (number / 10) (by omega) (by omega)
      exact ⟨first, rest ++ [(number % 10).digitChar], by rw [digits, List.cons_append], nonzero⟩

/-- The digits of a number without a zero at its end do not end with one. -/
theorem exists_toDigits_eq_concat {number : ℕ} (last : number % 10 ≠ 0) :
    ∃ front final, Nat.toDigits 10 number = front ++ [final] ∧ final ≠ '0' := by
  rw [Nat.toDigits_eq_if (by decide)]
  split_ifs with short
  · refine ⟨[], _, rfl, fun zero => last ?_⟩
    rw [Nat.digitChar_eq_zero.mp zero]
  · exact ⟨_, _, rfl, fun zero => last (Nat.digitChar_eq_zero.mp zero)⟩

/-! ### Numerals and their values -/

/-- The value of digits with or without a point between them. -/
def valueOfFixed (text : List Char) : ℚ :=
  let whole := text.takeWhile (· ≠ '.')
  let fraction := (text.dropWhile (· ≠ '.')).drop 1
  Nat.ofDigitChars 10 (whole ++ fraction) 0 / 10 ^ fraction.length

/-- The value of a numeral without a sign. Where there is an exponent it stands, with its own sign,
behind the mark; it is not negative. -/
def valueOfUnsigned (text : List Char) : ℚ :=
  let exponent := (text.dropWhile (· ≠ 'e')).drop 2
  valueOfFixed (text.takeWhile (· ≠ 'e')) * 10 ^ Nat.ofDigitChars 10 exponent 0

/-- The value of a numeral. -/
def valueOf : List Char → ℚ
  | '-' :: text => -valueOfUnsigned text
  | text => valueOfUnsigned text

theorem takeWhile_append_cons {mark : Char} {front : List Char} (apart : mark ∉ front)
    (rest : List Char) : (front ++ mark :: rest).takeWhile (· ≠ mark) = front := by
  have before : ∀ character ∈ front, decide (character ≠ mark) = true :=
    fun character member => decide_eq_true fun same => apart (same ▸ member)
  rw [List.takeWhile_append_of_pos before, List.takeWhile_cons]
  simp

theorem dropWhile_append_cons {mark : Char} {front : List Char} (apart : mark ∉ front)
    (rest : List Char) : (front ++ mark :: rest).dropWhile (· ≠ mark) = mark :: rest := by
  have before : ∀ character ∈ front, decide (character ≠ mark) = true :=
    fun character member => decide_eq_true fun same => apart (same ▸ member)
  rw [List.dropWhile_append_of_pos before, List.dropWhile_cons]
  simp

theorem takeWhile_of_not_mem {mark : Char} {text : List Char} (apart : mark ∉ text) :
    text.takeWhile (· ≠ mark) = text := by
  refine List.takeWhile_eq_self_iff.mpr fun character member => ?_
  exact decide_eq_true fun same => apart (same ▸ member)

theorem dropWhile_of_not_mem {mark : Char} {text : List Char} (apart : mark ∉ text) :
    text.dropWhile (· ≠ mark) = [] := by
  refine List.dropWhile_eq_nil_iff.mpr fun character member => ?_
  exact decide_eq_true fun same => apart (same ▸ member)

/-- Without a point the value is the number that the digits spell. -/
theorem valueOfFixed_of_not_mem {whole : List Char} (apart : '.' ∉ whole) :
    valueOfFixed whole = Nat.ofDigitChars 10 whole 0 := by
  rw [valueOfFixed]
  rw [takeWhile_of_not_mem apart, dropWhile_of_not_mem apart]
  simp

/-- With a point it is that of all digits, divided by ten for each behind the point. -/
theorem valueOfFixed_append_cons {whole : List Char} (apart : '.' ∉ whole)
    (fraction : List Char) :
    valueOfFixed (whole ++ '.' :: fraction) =
      Nat.ofDigitChars 10 (whole ++ fraction) 0 / 10 ^ fraction.length := by
  rw [valueOfFixed]
  rw [takeWhile_append_cons apart, dropWhile_append_cons apart]
  rfl

theorem valueOfUnsigned_of_not_mem {text : List Char} (apart : 'e' ∉ text) :
    valueOfUnsigned text = valueOfFixed text := by
  rw [valueOfUnsigned]
  rw [takeWhile_of_not_mem apart, dropWhile_of_not_mem apart]
  simp

/-- An exponent multiplies the value of what stands in front of it. -/
theorem valueOfUnsigned_append_cons {mantissa : List Char} (apart : 'e' ∉ mantissa)
    (sign : Char) (exponent : List Char) :
    valueOfUnsigned (mantissa ++ 'e' :: sign :: exponent) =
      valueOfFixed mantissa * 10 ^ Nat.ofDigitChars 10 exponent 0 := by
  rw [valueOfUnsigned]
  rw [takeWhile_append_cons apart, dropWhile_append_cons apart]
  rfl

end Decimal

end SolidScene
