/-
This file rounds a quotient of natural numbers to a whole number. The nearest whole
number wins, and a quotient halfway between two of them goes to the even one.

Every rounding of the project is this one: the six decimals of a printed number are
a whole number of millionths, and the significand of a number that was read is a
whole number of the units of its last place. So there is one definition to prove
something about, and two facts are enough for most of what follows: a quotient
without a rest is not changed, and no quotient is moved by more than one half.
-/

namespace SolidScene.Decimal

/-- The whole number nearest to `numerator / denominator`; a half goes to the even neighbour. -/
def roundDiv (numerator denominator : Nat) : Nat :=
  let quotient := numerator / denominator
  let twiceRest := 2 * (numerator % denominator)
  if twiceRest < denominator then quotient
  else if denominator < twiceRest then quotient + 1
  else quotient + quotient % 2

/-- A quotient without a rest is not changed by rounding. -/
theorem roundDiv_mul (quotient : Nat) {denominator : Nat} (positive : 0 < denominator) :
    roundDiv (quotient * denominator) denominator = quotient := by
  simp [roundDiv, Nat.mul_div_cancel _ positive, positive]

/-- Rounding moves a quotient by at most one half. -/
theorem two_mul_roundDiv_mul_le (numerator denominator : Nat) :
    2 * (roundDiv numerator denominator * denominator) ≤ 2 * numerator + denominator := by
  have split := Nat.div_add_mod numerator denominator
  have even : numerator / denominator % 2 ≤ 1 := by omega
  have product := Nat.mul_comm (numerator / denominator) denominator
  have scaled := Nat.mul_le_mul_right denominator even
  unfold roundDiv
  simp only
  split
  · omega
  · split
    · rw [Nat.add_mul]
      omega
    · rw [Nat.add_mul]
      omega

end SolidScene.Decimal
