/-
This file says which numbers a document can hold, and that each of them has a
numeric reading. A whole number of a document fits 64 bits, so the binary number
nearest to it is far below the largest one; the other numbers are binary and finite
as they are read.

The reading of a value as a number may fail in general, for a whole number beyond
the largest binary one and for a binary number that is not finite. That no document
holds either is what makes the fallbacks of the coercions say something simple: an
atom, a value that is neither a list nor an object, reads alike with every fallback,
and only lists and objects need one. The theorems about creating and updating nodes
are stated in these two words.
-/
import SolidScene.Json.Token
import SolidScene.Proofs.Node.Fields
import SolidScene.Props.Coercion

namespace SolidScene

namespace Binary64

/-! ### Whole numbers -/

/-- A quotient that is cut to 53 digits is rounded to at most the next power of two. -/
theorem roundDiv_lastPlace_le (numerator : Nat) :
    Decimal.roundDiv numerator (2 ^ lastPlace numerator 1) ≤ 2 ^ 53 := by
  have bound := Decimal.two_mul_roundDiv_mul_le numerator (2 ^ lastPlace numerator 1)
  have positive : 0 < 2 ^ lastPlace numerator 1 := Nat.two_pow_pos _
  have below : numerator < 2 ^ 53 * 2 ^ lastPlace numerator 1 := by
    rw [← Nat.pow_add]
    refine Nat.lt_of_lt_of_le Nat.lt_log2_self (Nat.pow_le_pow_right (by decide) ?_)
    rw [lastPlace, Nat.div_one]
    omega
  generalize 2 ^ lastPlace numerator 1 = place at *
  by_contra more
  have above := Nat.mul_le_mul_right place (Nat.succ_le_of_lt (Nat.lt_of_not_le more))
  rw [Nat.succ_mul] at above
  omega

/-- Far below the largest number there is always a nearest one. -/
theorem exists_nearest? (negative : Bool) {numerator length : Nat}
    (small : numerator < 2 ^ length) (short : length ≤ 2000) :
    ∃ number, nearest? negative numerator 1 = some number := by
  have whole := roundDiv_lastPlace_le numerator
  have place : lastPlace numerator 1 ≤ length := by
    rw [lastPlace, Nat.div_one]
    by_cases zero : numerator = 0
    · simp [zero]
    · have log := (Nat.log2_lt zero).mpr small
      omega
  rw [nearest?, Nat.one_mul, ofCode?, dif_pos (by omega)]
  exact ⟨_, rfl⟩

theorem exists_unitsPerOne_eq : ∃ place ≤ 1900, unitsPerOne = 2 ^ place :=
  ⟨1074, by decide, unitsPerOne.eq_1⟩

-- Nothing below needs the power itself, and it is too large to be worked out.
attribute [local irreducible] unitsPerOne

theorem exists_ofDecimal?_zero (negative : Bool) {coefficient : Nat}
    (small : coefficient ≤ 2 ^ 64) :
    ∃ number, ofDecimal? negative coefficient (.ofNat 0) = some number := by
  rw [ofDecimal?, Nat.pow_zero, Nat.mul_one]
  split_ifs with none large
  · exact ⟨_, rfl⟩
  · exact absurd large (by decide)
  · obtain ⟨place, short, power⟩ := exists_unitsPerOne_eq
    have below : coefficient * unitsPerOne < 2 ^ (65 + place) := by
      rw [power, Nat.pow_add]
      exact Nat.mul_lt_mul_of_pos_right (by omega) (Nat.two_pow_pos place)
    exact exists_nearest? negative below (by omega)

/-- A whole number of 64 bits has a nearest binary number. -/
theorem exists_ofInt? {value : Int} (low : -2 ^ 63 ≤ value) (high : value < 2 ^ 64) :
    ∃ number, ofInt? value = some number := by
  cases value with
  | ofNat magnitude =>
    have small : magnitude ≤ 2 ^ 64 := by
      rw [Int.ofNat_eq_natCast] at high
      omega
    exact exists_ofDecimal?_zero false small
  | negSucc magnitude =>
    have small : magnitude + 1 ≤ 2 ^ 64 := by omega
    exact exists_ofDecimal?_zero true small

end Binary64

namespace Json

/-! ### Numbers of documents -/

/-- A number as a document can hold it: whole and within 64 bits, or finite. -/
def Number.Fits : Number → Prop
  | .whole value => -2 ^ 63 ≤ value ∧ value < 2 ^ 64
  | .binary value => value.isFinite

/-- No other number is read from a document. -/
theorem fits_of_numberOf? {negative : Bool} {whole : List Char} {fraction : Option (List Char)}
    {exponent : Option Int} {number : Number}
    (found : numberOf? negative whole fraction exponent = some number) : number.Fits := by
  unfold numberOf? at found
  dsimp only at found
  split_ifs at found with positive minus
  · cases found
    exact ⟨by omega, by omega⟩
  · cases found
    exact ⟨by omega, by omega⟩
  · obtain ⟨value, nearest, rfl⟩ := Option.map_eq_some_iff.mp found
    exact Binary64.isFinite_of_ofDecimal? nearest

theorem exists_number?_of_fits {value : Number} (fits : value.Fits) :
    ∃ nearest, (number value).number? = some nearest := by
  have reading {nearest : Binary64} (found : value.toBinary64? = some nearest)
      (finite : nearest.isFinite) : ∃ nearest, (number value).number? = some nearest :=
    ⟨nearest, by rw [number?, found, Option.filter_some, if_pos finite]⟩
  cases value with
  | whole value =>
    obtain ⟨nearest, found⟩ := Binary64.exists_ofInt? fits.1 fits.2
    exact reading found (Binary64.isFinite_of_ofInt? found)
  | binary value => exact reading rfl fits

/-- A value of a document that is neither a list nor an object. -/
def IsAtom : Json → Prop
  | number value => value.Fits
  | array _ | object _ => False
  | null | bool _ | string _ => True

/-- The reading of an atom as a number or an expression needs no fallback. -/
theorem scalarOr_of_isAtom {json : Json} (atom : json.IsAtom) (fallback other : Binary64) :
    json.scalarOr fallback = json.scalarOr other := by
  cases json with
  | number value =>
    obtain ⟨nearest, found⟩ := exists_number?_of_fits atom
    simp only [scalarOr, numberOr, found, Option.getD_some]
  | array | object => exact atom.elim
  | null | bool | string => rfl

/-- A list or an object. -/
def IsCompound : Json → Prop
  | array _ | object _ => True
  | null | bool _ | number _ | string _ => False

/-- The reading of a list or an object is the fallback. -/
theorem scalarOr_of_isCompound {json : Json} (compound : json.IsCompound) (fallback : Binary64) :
    json.scalarOr fallback = .number fallback := by
  cases json with
  | array | object => rfl
  | null | bool | number | string => exact compound.elim

end Json

end SolidScene
