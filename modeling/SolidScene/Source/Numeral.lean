/-
This file writes numbers the way the solid modelling language reads them. Below `10
^ 21` a number is rounded to six decimals, a half to the even last digit, and the
zeros at the end and a point without decimals are dropped; zero has no sign. From
`10 ^ 21` on the shortest decimal is written with an exponent.

Both forms work on whole numbers only. A number below the bound is first brought to
millionths, exactly and with one rounding, and its digits are those of the quotient
and the remainder by a million; a number from the bound on takes the digits of the
shortest decimal that reads back as it. A numeral with the sign of a zero never
comes up, since the sign is written only in front of a count that is not zero.
-/
import SolidScene.Binary64.Shortest
import SolidScene.Decimal.Rounding

namespace SolidScene.Source

/-- The number of decimals that a number is rounded to. -/
def places : Nat := 6

/-- From this magnitude on a numeral has an exponent. -/
def exponentFrom : Nat := 10 ^ 21

/-- A finite number as a whole number of millionths, rounded. -/
def millionths (number : Binary64) : Nat :=
  Decimal.roundDiv (number.units * 10 ^ places) Binary64.unitsPerOne

/-- The digits of a fraction of `width` places, without the zeros at its end. -/
def fractionDigits (width fraction : Nat) : List Char :=
  let digits := Nat.toDigits 10 fraction
  ((List.replicate (width - digits.length) '0' ++ digits).reverse.dropWhile (· = '0')).reverse

/-- The numeral of a magnitude that is given in millionths. -/
def fixedDigits (count : Nat) : List Char :=
  let whole := Nat.toDigits 10 (count / 10 ^ places)
  let fraction := count % 10 ^ places
  if fraction = 0 then whole else whole ++ '.' :: fractionDigits places fraction

/-- The numeral of a large magnitude: the shortest digits and an exponent with its sign. -/
def exponentDigits (number : Binary64) : List Char :=
  let (significand, exponent) := number.shortest.scientific
  significand ++ 'e' :: '+' :: Nat.toDigits 10 exponent.toNat

/-- The numeral of a finite number, as characters. -/
def numeralDigits (number : Binary64) : List Char :=
  if exponentFrom * Binary64.unitsPerOne ≤ number.units then
    if number.negative then '-' :: exponentDigits number else exponentDigits number
  else
    let count := millionths number
    if number.negative ∧ count ≠ 0 then '-' :: fixedDigits count else fixedDigits count

/-- The text of a number in the generated source. -/
def numeral (number : Binary64) : String :=
  if number.isFinite then String.ofList (numeralDigits number)
  else if number.isNaN then "NaN"
  else if number.negative then "-inf"
  else "inf"

end SolidScene.Source
