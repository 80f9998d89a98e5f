/-
This file is about the decimals that round to a number. Its neighbours are one step
of its last place away, or half a step where the significand is the least one of its
exponent; the interval around the number ends halfway to them. So the number is the
nearest one to every decimal in its interval, and the reader, which cuts a decimal
at the place that its own size gives, finds that number.

Everything is measured in units, the step of the smallest numbers, and the ends of
the interval in quarters of a unit, so that they are whole numbers also where the
lower neighbour is half a step away. The ends themselves belong to the interval only
if the significand is even, which is how a tie is decided. That the number is the
nearest one is proved about exact values, among all finite numbers of either sign;
that the reader finds it is proved about the digits that the reader cuts off, once
for the place of the number itself and once for the place below, which a decimal
just under a power of two is cut at.
-/
import Mathlib.Tactic.Linarith
import SolidScene.Binary64.Nearest
import SolidScene.Binary64.Shortest
import SolidScene.Proofs.Decimal.Nearest

namespace SolidScene

namespace Binary64

/-! ### Exact values -/

/-- The exact value of a finite number. -/
def value (number : Binary64) : ℚ := signed number.negative (number.units / unitsPerOne)

theorem unitsPerOne_pos : 0 < unitsPerOne := by simp only [unitsPerOne, Nat.two_pow_pos]

-- Nothing below needs the power itself, and it is too large to be worked out.
attribute [local irreducible] unitsPerOne

/-- The magnitude of a number is its units as a part of one. -/
theorem abs_value (number : Binary64) : |number.value| = number.units / unitsPerOne := by
  rw [value, abs_signed, abs_of_nonneg (by positivity)]

/-! ### Neighbours -/

theorem significand_ge {number : Binary64} (normal : number.exponentField ≠ 0) :
    2 ^ 52 ≤ number.significand := by
  rw [significand, if_neg normal]
  exact Nat.le_add_right _ _

/-- A number with a place behind that of the last digit is a normal one. -/
theorem significand_ge_of_shift_pos {number : Binary64} (deep : 0 < number.shift) :
    2 ^ 52 ≤ number.significand :=
  significand_ge fun zero => by rw [shift, zero] at deep; exact absurd deep (by decide)

/-- A number stays below the least significand of the next exponent. -/
theorem units_lt (number : Binary64) : number.units < 2 ^ 53 * 2 ^ number.shift :=
  Nat.mul_lt_mul_of_pos_right number.significand_lt (Nat.two_pow_pos _)

/-- A number is a whole number of steps of every place that is not behind its last one. -/
theorem exists_units_eq_mul {number : Binary64} {place : ℕ} (deep : place ≤ number.shift) :
    ∃ steps, number.units = steps * 2 ^ place := by
  obtain ⟨further, same⟩ := Nat.exists_eq_add_of_le' deep
  refine ⟨number.significand * 2 ^ further, ?_⟩
  rw [units, same, Nat.pow_add, Nat.mul_assoc]

/-- Whole numbers of steps that are not the same are one step apart. -/
theorem mul_add_le_of_mul_lt {first second step : ℕ} (less : first * step < second * step) :
    first * step + step ≤ second * step := by
  have next := Nat.mul_le_mul_right step (Nat.lt_of_mul_lt_mul_right less)
  rwa [Nat.succ_mul] at next

/-- A number whose last place is in front of another place stays half a step of that place below
the least significand there. -/
theorem two_mul_units_add_le {number : Binary64} {place : ℕ} (early : number.shift < place) :
    2 * number.units + 2 ^ place ≤ 2 * (2 ^ 52 * 2 ^ place) := by
  obtain ⟨before, rfl⟩ : ∃ before, place = before + 1 := ⟨place - 1, by omega⟩
  have less : number.units ≤ (2 ^ 53 - 1) * 2 ^ before :=
    Nat.mul_le_mul (Nat.le_sub_one_of_lt number.significand_lt)
      (Nat.pow_le_pow_right (by decide) (Nat.le_of_lt_succ early))
  rw [Nat.pow_succ]
  omega

/-- The numbers above are at least one step away. -/
theorem units_add_le {number other : Binary64} (more : number.units < other.units) :
    number.units + 2 ^ number.shift ≤ other.units := by
  rcases Nat.lt_or_ge other.shift number.shift with early | deep
  · have small := two_mul_units_add_le early
    have normal : 2 ^ 52 * 2 ^ number.shift ≤ number.units :=
      Nat.mul_le_mul_right _ (significand_ge_of_shift_pos (Nat.zero_lt_of_lt early))
    have positive := Nat.two_pow_pos number.shift
    omega
  · obtain ⟨steps, same⟩ := exists_units_eq_mul deep
    rw [same, units] at more ⊢
    exact mul_add_le_of_mul_lt more

/-! ### The interval of a number -/

/-- Where the numbers below lie twice as close the significand is the least one. -/
theorem significand_of_narrowBelow {number : Binary64} (narrow : number.narrowBelow) :
    number.significand = 2 ^ 52 ∧ 0 < number.shift := by
  rw [narrowBelow, Bool.and_eq_true, decide_eq_true_eq, decide_eq_true_eq] at narrow
  obtain ⟨least, normal⟩ := narrow
  rw [significand, if_neg (by omega), least, shift]
  exact ⟨rfl, by omega⟩

/-- Otherwise a number with places behind its last one is at least one step above the least
significand. -/
theorem units_ge_of_not_narrowBelow {number : Binary64} (wide : ¬ number.narrowBelow)
    (deep : 0 < number.shift) :
    2 ^ 52 * 2 ^ number.shift + 2 ^ number.shift ≤ number.units := by
  have normal : 1 < number.exponentField := by rw [shift] at deep; omega
  have fraction : number.fraction ≠ 0 := by
    intro zero
    refine wide ?_
    rw [narrowBelow, Bool.and_eq_true, decide_eq_true_eq, decide_eq_true_eq]
    exact ⟨zero, normal⟩
  have least : 2 ^ 52 + 1 ≤ number.significand := by
    rw [significand, if_neg (by omega)]
    omega
  have scaled := Nat.mul_le_mul_right (2 ^ number.shift) least
  rwa [Nat.succ_mul] at scaled

theorem upperEnd_eq (number : Binary64) :
    number.upperEnd = 4 * number.units + 2 * 2 ^ number.shift := rfl

theorem lowerEnd_eq_of_narrowBelow {number : Binary64} (narrow : number.narrowBelow) :
    number.lowerEnd = 4 * number.units - 2 ^ number.shift := by
  rw [lowerEnd, if_pos narrow, quarters]

theorem lowerEnd_eq_of_not_narrowBelow {number : Binary64} (wide : ¬ number.narrowBelow) :
    number.lowerEnd = 4 * number.units - 2 * 2 ^ number.shift := by
  rw [lowerEnd, if_neg wide, quarters]

/-- The interval of a number ends at most halfway to the numbers above. -/
theorem upperEnd_le {number other : Binary64} (more : number.units < other.units) :
    number.upperEnd ≤ 2 * number.units + 2 * other.units := by
  have far := units_add_le more
  rw [upperEnd_eq]
  omega

/-- It begins at least halfway to the numbers below. -/
theorem le_lowerEnd {number other : Binary64} (less : other.units < number.units) :
    2 * number.units + 2 * other.units ≤ number.lowerEnd := by
  rcases Nat.lt_or_ge other.shift number.shift with early | deep
  · have small := two_mul_units_add_le early
    by_cases narrow : number.narrowBelow
    · have least : number.units = 2 ^ 52 * 2 ^ number.shift := by
        rw [units, (significand_of_narrowBelow narrow).1]
      rw [lowerEnd_eq_of_narrowBelow narrow]
      omega
    · have far := units_ge_of_not_narrowBelow narrow (Nat.zero_lt_of_lt early)
      rw [lowerEnd_eq_of_not_narrowBelow narrow]
      omega
  · have apart : other.units + 2 ^ number.shift ≤ number.units := by
      obtain ⟨steps, same⟩ := exists_units_eq_mul deep
      rw [same, units] at less ⊢
      exact mul_add_le_of_mul_lt less
    have begins : 4 * number.units - 2 * 2 ^ number.shift ≤ number.lowerEnd := by
      rw [lowerEnd, quarters]
      split_ifs <;> omega
    omega

theorem lowerEnd_pos {number : Binary64} (nonzero : number.units ≠ 0) : 0 < number.lowerEnd := by
  have none : (zero false).units < number.units := Nat.pos_of_ne_zero nonzero
  have half := le_lowerEnd none
  omega

/-- What reads back lies in the interval, and at one of its ends only if the significand is
even. -/
theorem readsBack_iff {number : Binary64} {numerator scale : ℕ} :
    number.readsBack numerator scale ↔
      number.lowerEnd * scale ≤ numerator ∧ numerator ≤ number.upperEnd * scale ∧
        (numerator = number.lowerEnd * scale ∨ numerator = number.upperEnd * scale →
          Even number.significand) := by
  rw [readsBack, Nat.even_iff]
  split_ifs with even
  · simp [even]
  · simp only [Bool.and_eq_true, decide_eq_true_eq, even, imp_false]
    omega

/-! ### The nearest number -/

/-- Of two places the lower one is nearer up to halfway between them, and there both are as
near. -/
theorem abs_sub_le_of_two_mul_le {lower upper target : ℚ} (less : lower < upper)
    (before : 2 * target ≤ lower + upper) :
    |lower - target| ≤ |upper - target| ∧
      (|lower - target| = |upper - target| → 2 * target = lower + upper) := by
  have above : |upper - target| = upper - target := abs_of_nonneg (by linarith)
  rw [above]
  refine ⟨abs_le.mpr ⟨by linarith, by linarith⟩, fun same => ?_⟩
  rcases abs_eq (by linarith : (0 : ℚ) ≤ upper - target) |>.mp same with ahead | behind
  · linarith
  · linarith

/-- The upper of two places is nearer from halfway on, and as near only halfway. -/
theorem abs_sub_le_of_le_two_mul {lower upper target : ℚ} (less : lower < upper)
    (after : lower + upper ≤ 2 * target) :
    |upper - target| ≤ |lower - target| ∧
      (|upper - target| = |lower - target| → 2 * target = lower + upper) := by
  have below : |lower - target| = target - lower := by
    rw [abs_sub_comm]
    exact abs_of_nonneg (by linarith)
  rw [below]
  refine ⟨abs_le.mpr ⟨by linarith, by linarith⟩, fun same => ?_⟩
  rcases abs_eq (by linarith : (0 : ℚ) ≤ target - lower) |>.mp same with ahead | behind
  · linarith
  · linarith

/-- A number is nearer to what is in its interval than other magnitudes are. -/
theorem abs_units_sub_le {number other : Binary64} {numerator scale : ℕ} {target : ℚ}
    (positive : 0 < scale) (exact : 4 * scale * target = numerator)
    (reads : number.readsBack numerator scale) (different : other.units ≠ number.units) :
    |number.units - target| ≤ |other.units - target| ∧
      (|number.units - target| = |other.units - target| → Even number.significand) := by
  obtain ⟨ge, le, ends⟩ := readsBack_iff.mp reads
  have half : (0 : ℚ) < 2 * scale := by exact_mod_cast Nat.mul_pos (by decide) positive
  have middle : 2 * scale * ((number.units : ℚ) + other.units) =
      ((2 * number.units + 2 * other.units) * scale : ℕ) := by push_cast; ring
  have double : 2 * scale * (2 * target) = (numerator : ℚ) := by rw [← exact]; ring
  -- A target halfway to the other number is an end of the interval.
  have halfway (same : 2 * target = number.units + other.units) :
      numerator = (2 * number.units + 2 * other.units) * scale := by
    rw [same, middle] at double
    exact_mod_cast double.symm
  rcases Nat.lt_or_gt_of_ne different with less | more
  · have begins := Nat.mul_le_mul_right scale (le_lowerEnd less)
    have after : (other.units + number.units : ℚ) ≤ 2 * target := by
      refine le_of_mul_le_mul_left ?_ half
      rw [double, add_comm, middle]
      exact_mod_cast begins.trans ge
    obtain ⟨nearer, tie⟩ := abs_sub_le_of_le_two_mul (by exact_mod_cast less) after
    refine ⟨nearer, fun same => ends (Or.inl ?_)⟩
    have exactly := halfway (by rw [tie same, add_comm])
    exact Nat.le_antisymm (exactly ▸ begins) ge
  · have stops := Nat.mul_le_mul_right scale (upperEnd_le more)
    have before : 2 * target ≤ (number.units + other.units : ℚ) := by
      refine le_of_mul_le_mul_left ?_ half
      rw [double, middle]
      exact_mod_cast le.trans stops
    obtain ⟨nearer, tie⟩ := abs_sub_le_of_two_mul_le (by exact_mod_cast more) before
    refine ⟨nearer, fun same => ends (Or.inr ?_)⟩
    have exactly := halfway (tie same)
    exact Nat.le_antisymm le (exactly ▸ stops)

/-- Magnitudes are at most as far apart as the numbers with signs, and as far apart only where the
signs are the same or one of them is zero. -/
theorem abs_sub_le_abs_signed_sub {left right : ℚ} (leftNonneg : 0 ≤ left)
    (rightNonneg : 0 ≤ right) (negative other : Bool) :
    |left - right| ≤ |signed negative left - signed other right| ∧
      (|left - right| = |signed negative left - signed other right| →
        negative = other ∨ left = 0 ∨ right = 0) := by
  by_cases same : negative = other
  · rw [same, signed_sub, abs_signed]
    exact ⟨le_refl _, fun _ => Or.inl rfl⟩
  · have sum : |signed negative left - signed other right| = left + right := by
      have flipped : other = !negative := by cases negative <;> cases other <;> simp_all
      rw [flipped]
      have total : signed negative left - signed (!negative) right =
          signed negative (left + right) := by
        cases negative
        · simp [signed]
        · simp only [signed, if_true, Bool.not_true, Bool.false_eq_true, if_false]
          ring
      rw [total, abs_signed, abs_of_nonneg (by linarith)]
    rw [sum]
    refine ⟨abs_le.mpr ⟨by linarith, by linarith⟩, fun distance => Or.inr ?_⟩
    rcases abs_eq (by linarith : 0 ≤ left + right) |>.mp distance with ahead | behind
    · exact Or.inr (by linarith)
    · exact Or.inl (by linarith)

/-- For a target of the same sign the distance is that of the magnitudes. -/
theorem abs_value_sub (number : Binary64) (target : ℚ) :
    |number.value - signed number.negative (target / unitsPerOne)| =
      |number.units - target| / unitsPerOne := by
  have one : (0 : ℚ) < unitsPerOne := by exact_mod_cast unitsPerOne_pos
  rw [value, signed_sub, abs_signed, ← sub_div, abs_div, abs_of_pos one]

/-- For a target of any sign the magnitudes tell how far a number is from it at least. -/
theorem abs_units_sub_div_le (number : Binary64) {target : ℚ} (nonneg : 0 ≤ target)
    (negative : Bool) :
    |number.units - target| / unitsPerOne ≤
        |number.value - signed negative (target / unitsPerOne)| ∧
      (|number.units - target| / unitsPerOne =
          |number.value - signed negative (target / unitsPerOne)| →
        number.negative = negative ∨ number.units = 0 ∨ target = 0) := by
  have one : (0 : ℚ) < unitsPerOne := by exact_mod_cast unitsPerOne_pos
  have magnitude : (0 : ℚ) ≤ number.units / unitsPerOne := by positivity
  have aim : 0 ≤ target / unitsPerOne := by positivity
  obtain ⟨far, tie⟩ := abs_sub_le_abs_signed_sub magnitude aim number.negative negative
  rw [← sub_div, abs_div, abs_of_pos one, ← value] at far tie
  simp only [div_eq_zero_iff, one.ne', or_false, Nat.cast_eq_zero] at tie
  exact ⟨far, tie⟩

theorem value_eq_zero {number : Binary64} (zero : number.units = 0) : number.value = 0 := by
  rw [value, zero]
  simp [signed]

/-- In the interval of a number that is not zero there is no zero. -/
theorem units_eq_zero_of_readsBack {number : Binary64} {scale : ℕ} (positive : 0 < scale)
    (reads : number.readsBack 0 scale) : number.units = 0 := by
  by_contra nonzero
  have begins := (readsBack_iff.mp reads).1
  exact absurd (Nat.mul_pos (lowerEnd_pos nonzero) positive) (by omega)

/-- A number is the nearest one to what is in its interval, also among the numbers of the other
sign. -/
theorem isNearest_of_readsBack {number : Binary64} (finite : number.isFinite)
    {numerator scale : ℕ} (positive : 0 < scale) (reads : number.readsBack numerator scale) :
    IsNearest (fun other => other.isFinite) value (fun other => Even other.significand)
      (signed number.negative (numerator / (4 * scale) / unitsPerOne)) number := by
  have one : (0 : ℚ) < unitsPerOne := by exact_mod_cast unitsPerOne_pos
  have nonzero : (scale : ℚ) ≠ 0 := by exact_mod_cast positive.ne'
  obtain ⟨target, exact⟩ : ∃ target : ℚ, target = numerator / (4 * scale) := ⟨_, rfl⟩
  have whole : 4 * scale * target = numerator := by rw [exact]; field_simp
  have nonneg : 0 ≤ target := by rw [exact]; positivity
  rw [← exact]
  refine ⟨finite, fun other _ => ?_, fun other _ different same => ?_⟩
  · rw [abs_value_sub]
    refine le_trans ?_ (other.abs_units_sub_div_le nonneg number.negative).1
    refine div_le_div_of_nonneg_right ?_ one.le
    by_cases equal : other.units = number.units
    · rw [equal]
    · exact (abs_units_sub_le positive whole reads equal).1
  · obtain ⟨far, tie⟩ := other.abs_units_sub_div_le nonneg number.negative
    rw [abs_value_sub] at same
    by_cases equal : other.units = number.units
    · -- The values differ, so the signs do, and neither the number nor the target is zero.
      refine absurd ?_ different
      have values (zero : number.units = 0) : other.value = number.value := by
        rw [value_eq_zero zero, value_eq_zero (equal.trans zero)]
      rcases tie (by rw [equal, same]) with sign | zero | zero
      · rw [value, value, sign, equal]
      · exact values (equal.symm.trans zero)
      · refine values (units_eq_zero_of_readsBack positive ?_)
        rw [zero, mul_zero] at whole
        rwa [← Nat.cast_eq_zero.mp whole.symm]
    · rw [← same, div_le_div_iff_of_pos_right one] at far
      obtain ⟨nearer, tie⟩ := abs_units_sub_le positive whole reads equal
      exact tie (le_antisymm nearer far)

/-! ### Reading -/

/-- The code of a number: its significand, counted on from the codes of the places before its
last one. -/
theorem ofCode?_eq_some {number : Binary64} (finite : number.isFinite) :
    ofCode? number.negative (number.shift * 2 ^ 52 + number.significand) = some number := by
  have code : number.shift * 2 ^ 52 + number.significand =
      number.exponentField * 2 ^ 52 + number.fraction := by
    rw [shift, significand]
    split_ifs with subnormal
    · rw [subnormal]
    · obtain ⟨before, same⟩ := Nat.exists_eq_succ_of_ne_zero subnormal
      rw [same, Nat.succ_sub_one, Nat.succ_mul, Nat.add_assoc]
  have bounded : number.exponentField < 2047 := of_decide_eq_true finite
  have fraction := number.fraction_lt
  have inRange : number.exponentField * 2 ^ 52 + number.fraction < 2047 * 2 ^ 52 := by omega
  have exponent : (number.exponentField * 2 ^ 52 + number.fraction) / 2 ^ 52 =
      number.exponentField := by omega
  have rest : (number.exponentField * 2 ^ 52 + number.fraction) % 2 ^ 52 = number.fraction := by
    omega
  rw [code, ofCode?, dif_pos inRange]
  cases number
  simp only [exponent, rest]

/-- A quotient is cut at a place if its digits in front of it are as many as a significand has, or
not more where no place is before. -/
theorem lastPlace_eq {numerator denominator place : ℕ} (positive : 0 < denominator)
    (long : place = 0 ∨ 2 ^ 52 * 2 ^ place * denominator ≤ numerator)
    (short : numerator < 2 ^ 53 * 2 ^ place * denominator) :
    lastPlace numerator denominator = place := by
  have less : numerator / denominator < 2 ^ (53 + place) := by
    rw [Nat.pow_add]
    exact (Nat.div_lt_iff_lt_mul positive).mpr short
  rw [lastPlace]
  rcases long with rfl | long
  · by_cases none : numerator / denominator = 0
    · simp [none]
    · have small := (Nat.log2_lt none).mpr less
      omega
  · have more : 2 ^ (52 + place) ≤ numerator / denominator := by
      rw [Nat.pow_add]
      exact (Nat.le_div_iff_mul_le positive).mpr long
    have some : numerator / denominator ≠ 0 :=
      Nat.ne_of_gt (Nat.lt_of_lt_of_le (Nat.two_pow_pos _) more)
    have large := (Nat.le_log2 some).mpr more
    have small := (Nat.log2_lt some).mpr less
    omega

/-- The nearest number has the code that rounding at the last place gives. -/
theorem nearest?_eq_some_of_isRounded {number : Binary64} (finite : number.isFinite)
    {numerator denominator place whole : ℕ} (positive : 0 < denominator)
    (cut : lastPlace numerator denominator = place)
    (rounded : Decimal.IsRounded numerator (denominator * 2 ^ place) whole)
    (code : place * 2 ^ 52 + whole = number.shift * 2 ^ 52 + number.significand) :
    nearest? number.negative numerator denominator = some number := by
  have scale : 0 < denominator * 2 ^ place := Nat.mul_pos positive (Nat.two_pow_pos _)
  have same := (Decimal.isRounded_roundDiv numerator scale).eq rounded scale
  rw [nearest?, cut, same, code, ofCode?_eq_some finite]

/-- In the interval of a number rounding at its last place gives its significand. -/
theorem isRounded_of_readsBack {number : Binary64} {numerator denominator : ℕ}
    (reads : number.readsBack (4 * numerator) denominator) :
    Decimal.IsRounded numerator (denominator * 2 ^ number.shift) number.significand := by
  obtain ⟨ge, le, ends⟩ := readsBack_iff.mp reads
  have units : number.units * denominator =
      number.significand * (denominator * 2 ^ number.shift) := by
    rw [Binary64.units]
    ring
  have step : 2 ^ number.shift * denominator = denominator * 2 ^ number.shift := Nat.mul_comm _ _
  rw [upperEnd_eq, Nat.add_mul, Nat.mul_assoc 4, Nat.mul_assoc 2, units, step] at le ends
  by_cases narrow : number.narrowBelow
  · rw [lowerEnd_eq_of_narrowBelow narrow, Nat.sub_mul, Nat.mul_assoc 4, units, step] at ge
    have even : Even number.significand := by
      rw [(significand_of_narrowBelow narrow).1]
      exact ⟨2 ^ 51, by decide⟩
    exact ⟨by omega, by omega, fun _ => even⟩
  · rw [lowerEnd_eq_of_not_narrowBelow narrow, Nat.sub_mul, Nat.mul_assoc 4, Nat.mul_assoc 2,
      units, step] at ge ends
    exact ⟨by omega, by omega, fun tie => ends (by omega)⟩

/-- Below the least significand of an exponent the last place is one further down, and there the
rounded significand is `2 ^ 53`. -/
theorem isRounded_of_narrowBelow {number : Binary64} (narrow : number.narrowBelow)
    {numerator denominator place : ℕ} (deep : number.shift = place + 1)
    (reads : number.readsBack (4 * numerator) denominator)
    (below : numerator < 2 ^ 52 * 2 ^ number.shift * denominator) :
    2 ^ 52 * 2 ^ place * denominator ≤ numerator ∧
      Decimal.IsRounded numerator (denominator * 2 ^ place) (2 ^ 53) := by
  have ge := (readsBack_iff.mp reads).1
  have step : 2 ^ number.shift * denominator = 2 * (denominator * 2 ^ place) := by
    rw [deep, Nat.pow_succ]
    ring
  rw [lowerEnd_eq_of_narrowBelow narrow, units, (significand_of_narrowBelow narrow).1, Nat.sub_mul,
    Nat.mul_assoc 4, Nat.mul_assoc (2 ^ 52), step] at ge
  rw [Nat.mul_assoc, step] at below
  rw [Nat.mul_assoc, Nat.mul_comm (2 ^ place)]
  exact ⟨by omega, by omega, by omega, fun _ => ⟨2 ^ 52, by decide⟩⟩

/-- What is in the interval of a number has no more digits in front of its last place than a
significand has. -/
theorem numerator_lt_of_readsBack {number : Binary64} {numerator denominator : ℕ}
    (positive : 0 < denominator) (reads : number.readsBack (4 * numerator) denominator) :
    numerator < 2 ^ 53 * 2 ^ number.shift * denominator := by
  have step : 0 < 2 ^ number.shift * denominator := Nat.mul_pos (Nat.two_pow_pos _) positive
  have full : (number.significand + 1) * (2 ^ number.shift * denominator) ≤
      2 ^ 53 * (2 ^ number.shift * denominator) :=
    Nat.mul_le_mul_right _ number.significand_lt
  have le := (isRounded_of_readsBack reads).ge
  rw [Nat.mul_comm denominator] at le
  rw [Nat.succ_mul] at full
  rw [Nat.mul_assoc]
  omega

/-- Only the interval of a least significand goes below the numbers with its last place. -/
theorem narrowBelow_of_lt {number : Binary64} {numerator denominator : ℕ}
    (reads : number.readsBack (4 * numerator) denominator) (deep : 0 < number.shift)
    (below : numerator < 2 ^ 52 * 2 ^ number.shift * denominator) : number.narrowBelow := by
  by_contra wide
  have far := Nat.mul_le_mul_right denominator (units_ge_of_not_narrowBelow wide deep)
  have ge := (isRounded_of_readsBack reads).le
  rw [Nat.mul_comm denominator] at ge
  rw [units, Nat.add_mul, Nat.mul_assoc, Nat.mul_assoc number.significand] at far
  rw [Nat.mul_assoc] at below
  omega

/-- What is in the interval of a number is read as that number. -/
theorem nearest?_eq_some_of_readsBack {number : Binary64} (finite : number.isFinite)
    {numerator denominator : ℕ} (positive : 0 < denominator)
    (reads : number.readsBack (4 * numerator) denominator) :
    nearest? number.negative numerator denominator = some number := by
  have short := numerator_lt_of_readsBack positive reads
  by_cases long : number.shift = 0 ∨ 2 ^ 52 * 2 ^ number.shift * denominator ≤ numerator
  · exact nearest?_eq_some_of_isRounded finite positive (lastPlace_eq positive long short)
      (isRounded_of_readsBack reads) rfl
  · obtain ⟨deep, below⟩ := not_or.mp long
    rw [Nat.not_le] at below
    obtain ⟨place, same⟩ := Nat.exists_eq_succ_of_ne_zero deep
    have narrow := narrowBelow_of_lt reads (Nat.pos_of_ne_zero deep) below
    obtain ⟨above, roundedUp⟩ := isRounded_of_narrowBelow narrow same reads below
    have shorter : numerator < 2 ^ 53 * 2 ^ place * denominator := by
      have double : 2 ^ number.shift = 2 * 2 ^ place := by rw [same, Nat.pow_succ, Nat.mul_comm]
      rw [double] at below
      refine below.trans_eq ?_
      ring
    refine nearest?_eq_some_of_isRounded finite positive
      (lastPlace_eq positive (Or.inr above) shorter) roundedUp ?_
    rw [same, (significand_of_narrowBelow narrow).1]
    omega

theorem shift_le {number : Binary64} (finite : number.isFinite) : number.shift ≤ 2045 := by
  have bounded : number.exponentField < 2047 := of_decide_eq_true finite
  rw [shift]
  omega

/-- Powers of ten that are large enough are beyond the interval of a number. -/
theorem lt_of_readsBack {number : Binary64} {top coefficient exponent limit : ℕ}
    (last : number.shift ≤ top) (beyond : 2 ^ 54 * 2 ^ top < 10 ^ limit * unitsPerOne)
    (positive : 0 < coefficient)
    (reads : number.readsBack (4 * (coefficient * 10 ^ exponent * unitsPerOne)) 1) :
    exponent < limit := by
  by_contra large
  have le := (readsBack_iff.mp reads).2.1
  have size := number.units_lt
  rw [upperEnd_eq, Nat.mul_one] at le
  have power : 10 ^ limit ≤ coefficient * 10 ^ exponent :=
    (Nat.pow_le_pow_right (by decide) (Nat.le_of_not_lt large)).trans
      (Nat.le_mul_of_pos_left _ positive)
  have product := Nat.mul_le_mul_right unitsPerOne power
  have step : 2 ^ number.shift ≤ 2 ^ top := Nat.pow_le_pow_right (by decide) last
  omega

/-- A whole decimal in the interval of a number is read as that number, sign included. -/
theorem ofDecimal?_eq_some_of_readsBack {number : Binary64} (finite : number.isFinite)
    {coefficient exponent : ℕ} (positive : 0 < coefficient)
    (reads : number.readsBack (4 * (coefficient * 10 ^ exponent * unitsPerOne)) 1) :
    ofDecimal? number.negative coefficient exponent = some number := by
  have few : exponent < 309 :=
    lt_of_readsBack (shift_le finite) (by decide +kernel) positive reads
  show (if coefficient = 0 then some (zero number.negative) else if 309 ≤ exponent then none
    else nearest? number.negative (coefficient * 10 ^ exponent * unitsPerOne) 1) = some number
  rw [if_neg positive.ne', if_neg (Nat.not_le_of_lt few)]
  exact nearest?_eq_some_of_readsBack finite (by decide) reads

end Binary64

end SolidScene
