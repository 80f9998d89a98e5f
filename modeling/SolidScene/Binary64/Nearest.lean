/-
This file finds the 64-bit number nearest to a decimal, which is how every number
enters a scene: from a document, from a property bag or as a default.

The significand and the exponent field of a finite number, written one after the
other, are one natural number, its code, and the codes count the numbers of one sign
in order. So a quotient is cut at the last place that a significand of 53 digits
has, rounded to a whole number there, and the place and the rounded significand
together are the code; a significand that was rounded up to `2 ^ 53` carries into
the place by itself. A decimal that is halfway between two numbers goes to the one
with the even significand, and a decimal that rounds beyond the largest finite
number has none.
-/
import SolidScene.Binary64.Basic
import SolidScene.Decimal.Rounding

namespace SolidScene.Binary64

/-- The finite number whose significand and exponent field are written one after the other
in `code`, if there is one. Counting `code` up by one goes to the next larger magnitude, also
from a full significand to the next exponent. -/
def ofCode? (negative : Bool) (code : Nat) : Option Binary64 :=
  if inRange : code < 2047 * 2 ^ 52 then
    some ⟨negative, code / 2 ^ 52, code % 2 ^ 52, by omega, mod_lt_fraction code⟩
  else none

/-- The place at which `numerator / denominator`, counted in least positive numbers, is cut:
the binary digits below a significand of 53 digits. -/
def lastPlace (numerator denominator : Nat) : Nat :=
  Nat.log2 (numerator / denominator) - 52

/-- The number nearest to `numerator / denominator`, a quotient counted in least positive
numbers. The rounded significand may be `2 ^ 53`; its code is then that of the next exponent. -/
def nearest? (negative : Bool) (numerator denominator : Nat) : Option Binary64 :=
  let place := lastPlace numerator denominator
  ofCode? negative
    (place * 2 ^ 52 + Decimal.roundDiv numerator (denominator * 2 ^ place))

/-- The number nearest to `coefficient * 10 ^ exponent`. Exponents so large that only zero
stays finite, and so small that everything rounds to zero, are settled without the power. -/
def ofDecimal? (negative : Bool) (coefficient : Nat) (exponent : Int) : Option Binary64 :=
  match exponent with
  | .ofNat power =>
    if coefficient = 0 then some (zero negative)
    else if 309 ≤ power then none
    else nearest? negative (coefficient * 10 ^ power * unitsPerOne) 1
  | .negSucc power =>
    if Nat.log2 coefficient + 1077 ≤ 3 * (power + 1) then some (zero negative)
    else nearest? negative (coefficient * unitsPerOne) (10 ^ (power + 1))

/-- The number nearest to an integer. -/
def ofInt? : Int → Option Binary64
  | .ofNat magnitude => ofDecimal? false magnitude 0
  | .negSucc magnitude => ofDecimal? true (magnitude + 1) 0

/-- A small whole number, such as a fallback for a missing argument. -/
def ofSmall (value : Nat) : Binary64 := (ofDecimal? false value 0).getD (zero false)

end SolidScene.Binary64
