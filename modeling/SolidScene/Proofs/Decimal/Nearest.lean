/-
This file says what it means that a choice is the nearest one to a target, a tie
going to the even choice, and shows that rounding a quotient chooses so among the
whole numbers. The rounded quotient is determined by its distance: no other whole
number is within one half, or it is exactly one half away on the other side and odd.

Nearness is defined for candidates of any kind with a place on the line, because it
is used for two kinds of them: multiples of a decimal step, which a numeral is
rounded to, and binary numbers, which a decimal is read as. The rounding itself is
described by inequalities between whole numbers, without a quotient in them; these
are what the proofs about reading and writing compute with, and what `roundDiv` is
shown to satisfy.
-/
import Mathlib.Algebra.Order.Field.Basic
import Mathlib.Algebra.Order.Ring.Int
import Mathlib.Data.Rat.Cast.Order
import Mathlib.Tactic.FieldSimp
import Mathlib.Tactic.Linarith
import Mathlib.Tactic.Ring
import SolidScene.Decimal.Rounding

namespace SolidScene

/-! ### Signs -/

/-- A magnitude with a sign. -/
def signed (negative : Bool) (magnitude : ℚ) : ℚ := if negative then -magnitude else magnitude

/-- The distance of two magnitudes with one sign is the distance with that sign. -/
theorem signed_sub (negative : Bool) (left right : ℚ) :
    signed negative left - signed negative right = signed negative (left - right) := by
  cases negative
  · rfl
  · simp only [signed, if_true]
    ring

@[simp] theorem abs_signed (negative : Bool) (magnitude : ℚ) :
    |signed negative magnitude| = |magnitude| := by
  cases negative
  · rfl
  · exact abs_neg magnitude

/-! ### Nearest choices -/

/-- A choice among candidates, each with its place, is nearest to a target: no other candidate is
nearer, and if one with another place is as near then the choice is the even one. -/
structure IsNearest {α : Type} (candidate : α → Prop) (place : α → ℚ) (isEven : α → Prop)
    (target : ℚ) (choice : α) : Prop where
  /-- The choice is one of the candidates. -/
  among : candidate choice
  /-- No candidate is nearer. -/
  le : ∀ other, candidate other → |place choice - target| ≤ |place other - target|
  /-- A candidate elsewhere that is as near leaves the choice to the even one. -/
  even : ∀ other, candidate other → place other ≠ place choice →
    |place choice - target| = |place other - target| → isEven choice

/-- On the grid of the whole numbers divided by a scale the choice within one half of a step is
nearest, if it is even where it is one half of a step away. -/
theorem isNearest_of_abs_sub_le {target scale : ℚ} (positive : 0 < scale) {choice : ℤ}
    (near : |choice - target| ≤ 1 / 2) (tie : |choice - target| = 1 / 2 → Even choice) :
    IsNearest (fun _ => True) (fun whole : ℤ => (whole : ℚ) / scale) Even (target / scale)
      choice := by
  -- The scale divides both distances, so they compare as without it.
  have distance (whole : ℤ) :
      |(whole : ℚ) / scale - target / scale| = |whole - target| / scale := by
    rw [← sub_div, abs_div, abs_of_pos positive]
  have apart {other : ℤ} (different : other ≠ choice) :
      1 - |choice - target| ≤ |other - target| := by
    have step : (1 : ℚ) ≤ |(other : ℚ) - choice| := by
      exact_mod_cast Int.one_le_abs (sub_ne_zero.mpr different)
    have triangle := abs_sub_le (other : ℚ) target choice
    rw [abs_sub_comm target] at triangle
    linarith
  refine ⟨trivial, fun other _ => ?_, fun other _ different same => tie ?_⟩
  · rw [distance, distance]
    refine div_le_div_of_nonneg_right ?_ positive.le
    by_cases equal : other = choice
    · rw [equal]
    · have far := apart equal
      linarith
  · have far := apart fun equal : other = choice => different (by rw [equal])
    rw [distance, distance, div_left_inj' positive.ne'] at same
    linarith

namespace Decimal

/-! ### Rounded quotients -/

/-- A whole number is a quotient, rounded: it is at most one half away, and it is even if it is one
half away. -/
structure IsRounded (numerator denominator whole : ℕ) : Prop where
  /-- It is at most one half above the quotient. -/
  le : 2 * (whole * denominator) ≤ 2 * numerator + denominator
  /-- It is at most one half below the quotient. -/
  ge : 2 * numerator ≤ 2 * (whole * denominator) + denominator
  /-- One half away on either side it is even. -/
  tie : 2 * (whole * denominator) = 2 * numerator + denominator ∨
    2 * numerator = 2 * (whole * denominator) + denominator → Even whole

theorem isRounded_roundDiv (numerator : ℕ) {denominator : ℕ} (positive : 0 < denominator) :
    IsRounded numerator denominator (roundDiv numerator denominator) := by
  have split := Nat.div_add_mod' numerator denominator
  have rest := Nat.mod_lt numerator positive
  unfold roundDiv
  dsimp only
  split_ifs with less more
  · exact ⟨by omega, by omega, by omega⟩
  · exact ⟨by rw [Nat.add_mul]; omega, by rw [Nat.add_mul]; omega,
      by rw [Nat.add_mul]; omega⟩
  · -- The quotient is halfway, and its last bit takes it to the even neighbour.
    rcases Nat.mod_two_eq_zero_or_one (numerator / denominator) with even | odd
    · rw [even, Nat.add_zero]
      exact ⟨by omega, by omega, fun _ => Nat.even_iff.mpr even⟩
    · rw [odd]
      exact ⟨by rw [Nat.add_mul]; omega, by rw [Nat.add_mul]; omega,
        fun _ => Nat.even_iff.mpr (by omega)⟩

/-- Two whole numbers that are the same quotient, rounded, are the same: if one is larger they are
one half away on both sides, so they are even and one apart. -/
theorem IsRounded.eq {numerator denominator first second : ℕ}
    (left : IsRounded numerator denominator first)
    (right : IsRounded numerator denominator second) (positive : 0 < denominator) :
    first = second := by
  wlog less : first < second generalizing first second
  · rcases Nat.lt_or_ge second first with more | same
    · exact (this right left more).symm
    · exact Nat.le_antisymm same (Nat.le_of_not_lt less)
  exfalso
  have above := Nat.mul_le_mul_right denominator less
  rw [Nat.succ_mul] at above
  have first_ge := left.ge
  have second_le := right.le
  have firstEven := left.tie (Or.inr (by omega))
  have secondEven := right.tie (Or.inl (by omega))
  have next : second * denominator = (first + 1) * denominator := by
    rw [Nat.succ_mul]
    omega
  have consecutive := Nat.eq_of_mul_eq_mul_right positive next
  rw [Nat.even_iff] at firstEven secondEven
  omega

/-- In exact terms: the distance is at most one half, and where it is one half the whole number is
even. -/
theorem IsRounded.abs_sub_le {numerator denominator whole : ℕ}
    (rounded : IsRounded numerator denominator whole) (positive : 0 < denominator) :
    |(whole : ℚ) - numerator / denominator| ≤ 1 / 2 ∧
      (|(whole : ℚ) - numerator / denominator| = 1 / 2 → Even whole) := by
  have scale : (0 : ℚ) < denominator := by exact_mod_cast positive
  have distance : (whole : ℚ) - numerator / denominator =
      (2 * (whole * denominator) - 2 * numerator) / (2 * denominator) := by
    field_simp
  have le : (2 * (whole * denominator) : ℚ) ≤ 2 * numerator + denominator := by
    exact_mod_cast rounded.le
  have ge : (2 * numerator : ℚ) ≤ 2 * (whole * denominator) + denominator := by
    exact_mod_cast rounded.ge
  have half : (1 / 2 : ℚ) = denominator / (2 * denominator) := by field_simp
  have total : |(whole : ℚ) - numerator / denominator| =
      |2 * (whole * denominator : ℚ) - 2 * numerator| / (2 * denominator) := by
    rw [distance, abs_div, abs_of_pos (by linarith : (0 : ℚ) < 2 * denominator)]
  constructor
  · rw [total, half]
    exact div_le_div_of_nonneg_right (abs_le.mpr ⟨by linarith, by linarith⟩) (by linarith)
  · intro same
    rw [total, half, div_left_inj' (by linarith : (2 * denominator : ℚ) ≠ 0)] at same
    refine rounded.tie ?_
    rcases (abs_eq scale.le).mp same with above | below
    · left
      have exact : (2 * (whole * denominator) : ℚ) = 2 * numerator + denominator := by linarith
      exact_mod_cast exact
    · right
      have exact : (2 * numerator : ℚ) = 2 * (whole * denominator) + denominator := by linarith
      exact_mod_cast exact

end Decimal

end SolidScene
