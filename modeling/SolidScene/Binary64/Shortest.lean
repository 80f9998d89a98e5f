/-
This file finds the shortest decimal that reads back as a given number. Documents
are written with such decimals, and so are the large numbers of the generated
source.

The decimals that round to a number form an interval around it, which is narrower
below a power of two than above, and its ends belong to it when the significand is
even. On the grid of the decimals with one significant digit, then two, and so on,
the two neighbours of the number are tried; the first grid with a neighbour inside
the interval gives the answer, of two such neighbours the nearer, and of two equally
near ones the even one. The interval is counted in quarters of the least positive
number, since its ends lie halfway, and below a power of two a quarter of the way,
to the neighbours of the number.
-/
import SolidScene.Binary64.Basic

namespace SolidScene

/-- The decimal `coefficient * 10 ^ exponent`. -/
structure Decimal where
  coefficient : Nat
  exponent : Int
deriving DecidableEq

namespace Decimal

/-- The same decimal without zeros at the end of its coefficient. -/
def trimZeros (coefficient : Nat) (exponent : Int) : Decimal :=
  if inside : 0 < coefficient ∧ coefficient % 10 = 0 then
    trimZeros (coefficient / 10) (exponent + 1)
  else ⟨coefficient, exponent⟩
termination_by coefficient
decreasing_by omega

/-- The digits of the coefficient, the leading one first. -/
def digits (decimal : Decimal) : List Char := Nat.toDigits 10 decimal.coefficient

/-- The power of ten that the leading digit stands for. -/
def leadingExponent (decimal : Decimal) : Int := decimal.digits.length - 1 + decimal.exponent

/-- The digits before and after the point when the decimal is written without an exponent. -/
def positional (decimal : Decimal) : List Char × List Char :=
  match decimal.exponent with
  | .ofNat power => (decimal.digits ++ List.replicate power '0', [])
  | .negSucc power =>
    let places := power + 1
    let padded := List.replicate (places + 1 - decimal.digits.length) '0' ++ decimal.digits
    (padded.take (padded.length - places), padded.drop (padded.length - places))

/-- The digits and the exponent of the leading one: `d.ddd` and the number behind `e`. -/
def scientific (decimal : Decimal) : List Char × Int :=
  match decimal.digits with
  | [] => ([], 0)
  | leading :: [] => ([leading], decimal.leadingExponent)
  | leading :: rest => (leading :: '.' :: rest, decimal.leadingExponent)

end Decimal

namespace Binary64

/-! ### The interval of decimals that read back -/

/-- Below the least significand of an exponent the numbers lie twice as close. -/
def narrowBelow (number : Binary64) : Bool := number.fraction = 0 && 1 < number.exponentField

/-- Four times the units of the number: fine enough for both ends of its interval. -/
def quarters (number : Binary64) : Nat := 4 * number.units

/-- The lower end of the interval, in quarters. -/
def lowerEnd (number : Binary64) : Nat :=
  number.quarters - (if number.narrowBelow then 2 ^ number.shift else 2 * 2 ^ number.shift)

/-- The upper end of the interval, in quarters. -/
def upperEnd (number : Binary64) : Nat := number.quarters + 2 * 2 ^ number.shift

/-- Whether `numerator / scale` quarters round to the number: the ends of the interval do
exactly when its significand is even. -/
def readsBack (number : Binary64) (numerator scale : Nat) : Bool :=
  if number.significand % 2 = 0 then
    number.lowerEnd * scale ≤ numerator && numerator ≤ number.upperEnd * scale
  else
    number.lowerEnd * scale < numerator && numerator < number.upperEnd * scale

/-! ### Decimal grids -/

/-- The exponent of the leading decimal digit of a positive number. Multiplied by `10 ^ 400`,
even the least positive number has digits before its point to count. -/
def leadingExponent (number : Binary64) : Int :=
  (Nat.toDigits 10 (number.units * 10 ^ 400 / unitsPerOne)).length - 401

/-- The neighbours of a number on the grid of the multiples of `10 ^ exponent`: the nearer
one that reads back, if any does. -/
def onGrid? (number : Binary64) (exponent : Int) : Option Nat :=
  let scale := 10 ^ (-exponent).toNat
  let step := 10 ^ exponent.toNat * (4 * unitsPerOne)
  let value := number.quarters * scale
  let below := value / step
  let above := below + 1
  match number.readsBack (below * step) scale, number.readsBack (above * step) scale with
  | false, false => none
  | true, false => some below
  | false, true => some above
  | true, true =>
    let twiceRest := 2 * (value % step)
    if twiceRest < step then some below
    else if step < twiceRest then some above
    else if below % 2 = 0 then some below else some above

/-- The shortest decimal that reads back as the number, and of several the nearest; zero has
one digit. Seventeen digits always suffice. -/
def shortest (number : Binary64) : Decimal :=
  if number.isZero then ⟨0, 0⟩
  else
    let leading := number.leadingExponent
    let found := (List.range 17).findSome? fun (fineness : Nat) =>
      (number.onGrid? (leading - fineness)).map fun coefficient =>
        Decimal.trimZeros coefficient (leading - fineness)
    found.getD ⟨0, 0⟩

end Binary64

end SolidScene
