/-
This file shows that the search for the shortest decimal of a number ends with one
that reads back. On a grid of which a step is at most `10 ^ (-16)` of the number a
neighbour of it is in its interval, so the last of the grids has an answer if the
ones before have none. Of a large number all grids are of whole numbers.

The search goes from coarse grids to fine ones, and it tries on each the two points
next to the number. What it finds reads back by the test it makes; the content is
that it finds something. A step of the last grid is narrower than the narrow half of
the interval, so one of the two points is inside. The number of digits in front of
the point is what ties the grids, which are counted in decimal places, to the
interval, which is measured in powers of two.
-/
import SolidScene.Proofs.Binary64.Interval

namespace SolidScene

namespace Decimal

/-! ### Zeros at the end -/

/-- Zeros at the end move into the exponent, and none is left. -/
theorem exists_trimZeros {coefficient : ℕ} (positive : 0 < coefficient) (exponent : ℤ) :
    ∃ rest zeros : ℕ, trimZeros coefficient exponent = ⟨rest, exponent + zeros⟩ ∧
      coefficient = rest * 10 ^ zeros ∧ rest % 10 ≠ 0 := by
  induction coefficient, exponent using trimZeros.induct with
  | case1 coefficient exponent inside inductionHypothesis =>
    obtain ⟨rest, zeros, trimmed, same, last⟩ := inductionHypothesis (by omega)
    refine ⟨rest, zeros + 1, ?_, ?_, last⟩
    · rw [trimZeros, dif_pos inside, trimmed]
      congr 1
      push_cast
      ring
    · rw [Nat.pow_succ, ← Nat.mul_assoc, ← same]
      omega
  | case2 coefficient exponent outside =>
    refine ⟨coefficient, 0, ?_, by simp, fun last => outside ⟨positive, last⟩⟩
    rw [trimZeros, dif_neg outside, Nat.cast_zero, add_zero]

end Decimal

namespace Binary64

-- Nothing below needs the power itself, and it is too large to be worked out.
attribute [local irreducible] unitsPerOne

/-! ### Grids -/

/-- What is found on a grid reads back. -/
theorem readsBack_of_onGrid? {number : Binary64} {exponent : ℤ} {coefficient : ℕ}
    (found : number.onGrid? exponent = some coefficient) :
    number.readsBack (coefficient * (10 ^ exponent.toNat * (4 * unitsPerOne)))
      (10 ^ (-exponent).toNat) := by
  rw [onGrid?] at found
  split at found
  case h_1 => exact absurd found (by simp)
  case h_2 below above =>
    cases found
    exact below
  case h_3 below above =>
    cases found
    exact above
  case h_4 below above =>
    dsimp only at found
    split_ifs at found <;> cases found <;> assumption

/-- On a grid that is fine enough one of the neighbours is nearer to the number than the ends of its
interval. Where the numbers below lie twice as close that is the upper neighbour, since there the
steps are shorter as well. -/
theorem readsBack_neighbour {number : Binary64} {step scale : ℕ} (steps : 0 < step)
    (fine : step * 10 ^ 16 ≤ number.quarters * scale) :
    number.readsBack (number.quarters * scale / step * step) scale ∨
      number.readsBack ((number.quarters * scale / step + 1) * step) scale := by
  have split := Nat.div_add_mod' (number.quarters * scale) step
  have rest := Nat.mod_lt (number.quarters * scale) steps
  have quarters : number.quarters * scale = 4 * (number.units * scale) := Nat.mul_assoc _ _ _
  have upper : number.upperEnd * scale =
      4 * (number.units * scale) + 2 * (2 ^ number.shift * scale) := by
    rw [upperEnd_eq, Nat.add_mul, Nat.mul_assoc, Nat.mul_assoc]
  have size : number.units * scale ≤ 2 ^ 53 * (2 ^ number.shift * scale) := by
    rw [← Nat.mul_assoc]
    exact Nat.mul_le_mul_right _ number.units_lt.le
  have next : (number.quarters * scale / step + 1) * step =
      number.quarters * scale / step * step + step := Nat.succ_mul _ _
  rw [readsBack_iff, readsBack_iff, upper, next]
  by_cases narrow : number.narrowBelow
  · have lower : number.lowerEnd * scale =
        4 * (number.units * scale) - 2 ^ number.shift * scale := by
      rw [lowerEnd_eq_of_narrowBelow narrow, Nat.sub_mul, Nat.mul_assoc]
    have least : number.units * scale = 2 ^ 52 * (2 ^ number.shift * scale) := by
      rw [units, (significand_of_narrowBelow narrow).1, Nat.mul_assoc]
    rw [lower]
    exact Or.inr ⟨by omega, by omega, by omega⟩
  · have lower : number.lowerEnd * scale =
        4 * (number.units * scale) - 2 * (2 ^ number.shift * scale) := by
      rw [lowerEnd_eq_of_not_narrowBelow narrow, Nat.sub_mul, Nat.mul_assoc, Nat.mul_assoc]
    rw [lower]
    rcases Nat.lt_or_ge (number.quarters * scale % step) (2 * (2 ^ number.shift * scale)) with
      near | far
    · exact Or.inl ⟨by omega, by omega, by omega⟩
    · exact Or.inr ⟨by omega, by omega, by omega⟩

theorem isSome_onGrid? {number : Binary64} {exponent : ℤ}
    (fine : 10 ^ exponent.toNat * (4 * unitsPerOne) * 10 ^ 16 ≤
      number.quarters * 10 ^ (-exponent).toNat) : (number.onGrid? exponent).isSome := by
  have steps : 0 < 10 ^ exponent.toNat * (4 * unitsPerOne) :=
    Nat.mul_pos (Nat.pow_pos (by decide)) (Nat.mul_pos (by decide) unitsPerOne_pos)
  have reads := readsBack_neighbour steps fine
  rw [onGrid?]
  dsimp only
  split
  case h_1 below above => simp [below, above] at reads
  case h_2 => rfl
  case h_3 => rfl
  case h_4 => split_ifs <;> rfl

/-! ### Large numbers -/

/-- The digits in front of the point tell the power of ten below a number, also if the number is
multiplied by one before they are counted. -/
theorem exists_length_toDigits {units one power : ℕ} (positive : 0 < one)
    (large : 10 ^ power * one ≤ units) (more : ℕ) :
    ∃ leading, (Nat.toDigits 10 (units * 10 ^ more / one)).length = more + leading + 1 ∧
      power ≤ leading ∧ 10 ^ leading * one ≤ units := by
  have raised : 10 ^ (more + power) ≤ units * 10 ^ more / one := by
    rw [Nat.le_div_iff_mul_le positive, Nat.pow_add, Nat.mul_assoc, Nat.mul_comm]
    exact Nat.mul_le_mul_right _ large
  have long : more + power < (Nat.toDigits 10 (units * 10 ^ more / one)).length := by
    rcases Nat.eq_zero_or_pos (more + power) with none | some
    · rw [none]
      exact Nat.length_toDigits_pos
    · by_contra short
      have less := (Nat.length_toDigits_le_iff (by decide) some).mp (Nat.le_of_not_lt short)
      exact absurd raised (Nat.not_le_of_lt less)
  obtain ⟨leading, same⟩ := Nat.exists_eq_add_of_lt
    (Nat.lt_of_le_of_lt (Nat.le_add_right more power) long)
  refine ⟨leading, same, by omega, ?_⟩
  rcases Nat.eq_zero_or_pos (more + leading) with none | some
  · have least : power = 0 ∧ leading = 0 := by omega
    rwa [least.1, ← least.2] at large
  · have enough : 10 ^ (more + leading) ≤ units * 10 ^ more / one := by
      by_contra short
      have few := (Nat.length_toDigits_le_iff (by decide) some).mpr (Nat.lt_of_not_le short)
      omega
    rw [Nat.le_div_iff_mul_le positive, Nat.pow_add, Nat.mul_assoc, Nat.mul_comm] at enough
    exact Nat.le_of_mul_le_mul_right enough (Nat.pow_pos (by decide))

theorem isZero_eq_false {number : Binary64} (positive : 0 < number.units) :
    number.isZero = false := by
  rw [isZero, Bool.and_eq_false_imp, decide_eq_true_eq, decide_eq_false_iff_not]
  intro subnormal zero
  rw [units, significand, if_pos subnormal, zero, Nat.zero_mul] at positive
  exact Nat.lt_irrefl 0 positive

/-- The grid of sixteen digits behind the first one has an answer. -/
theorem isSome_onGrid?_last {number : Binary64} {exponent : ℕ}
    (below : 10 ^ (exponent + 16) * unitsPerOne ≤ number.units) :
    (number.onGrid? exponent).isSome := by
  refine isSome_onGrid? ?_
  have whole : (-(exponent : ℤ)).toNat = 0 := by omega
  rw [Int.toNat_natCast, whole, Nat.pow_zero, Nat.mul_one, quarters]
  rw [Nat.pow_add] at below
  calc 10 ^ exponent * (4 * unitsPerOne) * 10 ^ 16
      = 4 * (10 ^ exponent * 10 ^ 16 * unitsPerOne) := by ring
    _ ≤ 4 * number.units := Nat.mul_le_mul_left 4 below

/-- The shortest decimal of a large number comes from one of the grids, which are of whole
numbers. -/
theorem exists_onGrid? {number : Binary64} {leading : ℕ} (enough : 16 ≤ leading)
    (positive : 0 < number.units) (first : number.leadingExponent = leading)
    (below : 10 ^ leading * unitsPerOne ≤ number.units) :
    ∃ coefficient exponent : ℕ, number.shortest = Decimal.trimZeros coefficient exponent ∧
      leading ≤ exponent + 16 ∧ number.onGrid? exponent = some coefficient := by
  have last : (number.onGrid? (leading - (16 : ℕ))).isSome := by
    obtain ⟨exponent, rfl⟩ := Nat.exists_eq_add_of_le' enough
    have grid : ((exponent + 16 : ℕ) : ℤ) - (16 : ℕ) = exponent := by omega
    rw [grid]
    exact isSome_onGrid?_last below
  obtain ⟨decimal, found⟩ : ∃ decimal, ((List.range 17).findSome? fun (fineness : ℕ) =>
      (number.onGrid? (leading - fineness)).map fun coefficient =>
        Decimal.trimZeros coefficient (leading - fineness)) = some decimal := by
    refine Option.isSome_iff_exists.mp (List.findSome?_isSome_iff.mpr ⟨16, by decide, ?_⟩)
    rw [Option.isSome_map]
    exact last
  obtain ⟨fineness, range, mapped⟩ := List.exists_of_findSome?_eq_some found
  obtain ⟨coefficient, onGrid, rfl⟩ := Option.map_eq_some_iff.mp mapped
  have few : fineness ≤ 16 := Nat.le_of_lt_succ (List.mem_range.mp range)
  obtain ⟨exponent, rfl⟩ := Nat.exists_eq_add_of_le' (few.trans enough)
  have grid : ((exponent + fineness : ℕ) : ℤ) - fineness = exponent := by omega
  rw [grid] at onGrid
  refine ⟨coefficient, exponent, ?_, Nat.add_le_add_left few exponent, onGrid⟩
  rw [shortest, isZero_eq_false positive, if_neg Bool.false_ne_true, first]
  dsimp only
  rw [found, Option.getD_some, grid]

/-- The shortest decimal of a large number is a whole number, it has no zero at the end of its
coefficient, and it reads back. -/
theorem exists_shortest {number : Binary64} {power : ℕ} (enough : 16 ≤ power)
    (large : 10 ^ power * unitsPerOne ≤ number.units) :
    ∃ coefficient exponent : ℕ, number.shortest = ⟨coefficient, exponent⟩ ∧
      power ≤ exponent + 16 ∧ coefficient % 10 ≠ 0 ∧
      number.readsBack (4 * (coefficient * 10 ^ exponent * unitsPerOne)) 1 := by
  obtain ⟨leading, digits, further, below⟩ := exists_length_toDigits unitsPerOne_pos large 400
  have first : number.leadingExponent = leading := by
    rw [leadingExponent, digits]
    omega
  have units_pos : 0 < number.units :=
    Nat.lt_of_lt_of_le (Nat.mul_pos (Nat.pow_pos (by decide)) unitsPerOne_pos) large
  obtain ⟨coefficient, exponent, shortest, near, onGrid⟩ :=
    exists_onGrid? (enough.trans further) units_pos first below
  have whole : (-(exponent : ℤ)).toNat = 0 := by omega
  have reads := readsBack_of_onGrid? onGrid
  rw [Int.toNat_natCast, whole, Nat.pow_zero] at reads
  have positive : 0 < coefficient := by
    refine Nat.pos_of_ne_zero fun none => ?_
    rw [none, Nat.zero_mul] at reads
    exact units_pos.ne' (units_eq_zero_of_readsBack Nat.one_pos reads)
  obtain ⟨rest, zeros, trimmed, same, last⟩ := Decimal.exists_trimZeros positive exponent
  refine ⟨rest, exponent + zeros, ?_, by omega, last, ?_⟩
  · rw [shortest, trimmed, Nat.cast_add]
  · have product : coefficient * (10 ^ exponent * (4 * unitsPerOne)) =
        4 * (rest * 10 ^ (exponent + zeros) * unitsPerOne) := by
      rw [same, Nat.pow_add]
      ring
    rwa [product] at reads

end Binary64

end SolidScene
