/-
This file makes the fields of nodes from loosely typed property values. Every
reading succeeds: a value without a meaning for the field gives the fallback that
the field names.

Each reading is a function of the value alone, so what a bag makes of a node is
known from the values under the names of its fields. Numbers are read from numbers
and truth values, never from texts, since a text in the place of a number is an
expression. No reading gives a number that is not finite. Lists keep their length: a
row that has no meaning is replaced, and not dropped, because faces and paths refer
to points by their position.
-/
import SolidScene.Json.Writer
import SolidScene.Node.Vector
import SolidScene.Source.Numeral

namespace SolidScene

/-- The value of the first of several names that has one; null does not count. -/
def Props.first? (bag : Props) (names : List String) : Option Json :=
  names.findSome? fun name =>
    match bag.value? name with
    | some .null => none
    | found => found

namespace Json

/-! ### Numbers and expressions -/

/-- The numeric reading of a value: a finite number is itself, true is one, false and null are
zero, and nothing else has one. -/
def number? : Json → Option Binary64
  | .number value => value.toBinary64?.filter Binary64.isFinite
  | .bool value => some (.ofSmall value.toNat)
  | .null => some (.ofSmall 0)
  | .string _ | .array _ | .object _ => none

/-- A field that holds a number. -/
def numberOr (fallback : Binary64) (json : Json) : Binary64 := json.number?.getD fallback

/-- A field that holds a number or an expression; a string is an expression as it stands. -/
def scalarOr (fallback : Binary64) : Json → Scalar
  | .string text => .expression text
  | json => .number (json.numberOr fallback)

/-- An entry of a vector. -/
def component (json : Json) : Scalar := json.scalarOr (.ofSmall 0)

/-- A field for two axes: a number, an expression, or a list that starts with two entries. -/
def vec2Or (fallback : Vec2) : Json → Vec2
  | .string text => .uniform (.expression text)
  | .number value => .uniform (component (.number value))
  | .array (x :: y :: _) => .components x.component y.component
  | _ => fallback

/-- A field for three axes: a number, an expression, or a list that starts with three
entries. -/
def vec3Or (fallback : Vec3) : Json → Vec3
  | .string text => .uniform (.expression text)
  | .number value => .uniform (component (.number value))
  | .array (x :: y :: z :: _) => .components x.component y.component z.component
  | _ => fallback

/-! ### Truth values, words and texts -/

/-- A field that holds a truth value; only true and false are read as one. -/
def bool? : Json → Option Bool
  | .bool value => some value
  | _ => none

/-- A text, if the value is one. -/
def string? : Json → Option String
  | .string text => some text
  | _ => none

/-- A field that holds a text. Numbers are written as in the generated source, lists and
objects as on one line of a document. -/
def asText : Json → String
  | .string text => text
  | .number value => (value.toBinary64?.map Source.numeral).getD ""
  | .bool value => if value then "true" else "false"
  | .null => ""
  | json => json.compact

/-! ### Lists -/

/-- A point is read from a list with at least as many entries as there are axes, of which the
first count; anything else is the origin. -/
def point (axes : Nat) : Json → Point axes
  | .array items =>
    if axes ≤ items.length then
      Vector.ofFn fun axis => (items[axis.val]?.getD .null).numberOr (.ofSmall 0)
    else Vector.replicate axes (.ofSmall 0)
  | _ => Vector.replicate axes (.ofSmall 0)

/-- A field that holds points; what is no list has none. -/
def points (axes : Nat) : Json → List (Point axes)
  | .array rows => rows.map (point axes)
  | _ => []

/-- A row of numbers is read from a list; anything else is an empty row. -/
def row : Json → List Binary64
  | .array items => items.map (numberOr (.ofSmall 0))
  | _ => []

/-- A field that holds rows of numbers; what is no list has none. -/
def rows : Json → Rows
  | .array rows => rows.map row
  | _ => []

end Json

end SolidScene
