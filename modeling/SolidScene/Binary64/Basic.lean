/-
This file holds the 64-bit binary numbers of the scene: a sign, an exponent field
and a fraction, with the bounds of the two fields kept in the number itself, so that
no number without a bit pattern can be built.

Every finite number is a whole multiple of the least positive one, `2 ^ (-1074)`, so
its exact value is a sign and a natural number: its units. All that is done with
numbers here, printing them, comparing them and rounding to them, is arithmetic on
these units, and no machine arithmetic is needed, which a proof could not look into.
The infinities and the values that are no number have units, too, but nobody asks
for them: whoever prints or reads a number first looks whether it is finite.
-/

namespace SolidScene

-- Powers are those of the core library, also where another library brings its own.
attribute [instance (high), default_instance (high)] instPowNat

/-- A number in the binary interchange format of 64 bits. -/
structure Binary64 where
  /-- The sign; zero has one as well. -/
  negative : Bool
  /-- The biased exponent; 2047 marks the infinities and what is not a number. -/
  exponentField : Nat
  /-- The fraction bits, without the leading one of a normal number. -/
  fraction : Nat
  exponentField_lt : exponentField < 2048 := by omega
  fraction_lt : fraction < 2 ^ 52 := by omega
deriving DecidableEq

namespace Binary64

/-! ### Bit patterns -/

theorem mod_lt_fraction (bits : Nat) : bits % 2 ^ 52 < 2 ^ 52 := Nat.mod_lt _ (by decide)

/-- The number with a given bit pattern, read modulo `2 ^ 64`. -/
def ofBits (bits : Nat) : Binary64 where
  negative := bits / 2 ^ 63 % 2 = 1
  exponentField := bits / 2 ^ 52 % 2048
  fraction := bits % 2 ^ 52
  exponentField_lt := Nat.mod_lt _ (by decide)
  fraction_lt := mod_lt_fraction bits

/-- The bit pattern of a number: the sign, the exponent field and the fraction. -/
def toBits (number : Binary64) : Nat :=
  number.negative.toNat * 2 ^ 63 + number.exponentField * 2 ^ 52 + number.fraction

theorem ofBits_toBits (number : Binary64) : ofBits number.toBits = number := by
  obtain ⟨negative, exponentField, fraction, exponentField_lt, fraction_lt⟩ := number
  cases negative <;> simp only [ofBits, toBits, Bool.toNat_false, Bool.toNat_true, mk.injEq] <;>
    refine ⟨?_, ?_, ?_⟩ <;> first | omega | (simp; omega)

/-! ### Classes of numbers -/

/-- Neither an infinity nor what is not a number. -/
def isFinite (number : Binary64) : Bool := number.exponentField < 2047

/-- The largest exponent field with a fraction stands for no number at all. -/
def isNaN (number : Binary64) : Bool := number.exponentField = 2047 && number.fraction ≠ 0

/-! ### Exact values -/

/-- Binary digits between the last place of the significand and the least positive number. -/
def shift (number : Binary64) : Nat := number.exponentField - 1

/-- The significand: the fraction, with a leading one in front for a normal number. -/
def significand (number : Binary64) : Nat :=
  if number.exponentField = 0 then number.fraction else 2 ^ 52 + number.fraction

/-- The least positive numbers that make up one. -/
def unitsPerOne : Nat := 2 ^ 1074

/-- The magnitude of a finite number, counted in least positive numbers. -/
def units (number : Binary64) : Nat := number.significand * 2 ^ number.shift

/-- Both zeros, and nothing else. -/
def isZero (number : Binary64) : Bool := number.exponentField = 0 && number.fraction = 0

theorem significand_lt (number : Binary64) : number.significand < 2 ^ 53 := by
  have := number.fraction_lt
  unfold significand
  split <;> omega

/-- Numbers are compared by value: the two zeros are equal and what is not a number differs
from everything. -/
instance : BEq Binary64 where
  beq left right :=
    !left.isNaN && !right.isNaN && (decide (left = right) || left.isZero && right.isZero)

/-! ### Special numbers -/

/-- The zero of a sign. -/
def zero (negative : Bool) : Binary64 := ⟨negative, 0, 0, by decide, by decide⟩

instance : Inhabited Binary64 := ⟨zero false⟩

/-- The number one, whose exponent field is the bias. -/
def one : Binary64 := ⟨false, 1023, 0, by decide, by decide⟩

/-- The infinity of a sign. -/
def infinity (negative : Bool) : Binary64 := ⟨negative, 2047, 0, by decide, by decide⟩

/-- The usual one of the values that are no number. -/
def notANumber : Binary64 := ⟨false, 2047, 2 ^ 51, by decide, by decide⟩

end Binary64

end SolidScene
