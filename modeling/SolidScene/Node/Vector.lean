/-
This file holds the arguments of nodes that may be numbers or expressions. An
expression is a piece of source text that is passed through as it is; a vector is
one such argument for all axes, or one for each.

A vector of one argument is not the same as one with this argument for each axis:
the generated source shows which of the two was given. Points and rows of positions
hold numbers only, since they are data and no parameters, and a point has its number
of axes in its type, so that no list of points mixes points of different kinds.
-/
import SolidScene.Json.Basic

namespace SolidScene

/-- A number, or the text of an expression. -/
inductive Scalar where
  | number (value : Binary64)
  | expression (text : String)
deriving DecidableEq, Inhabited

/-- Numbers are compared by value and expressions as texts. -/
instance : BEq Scalar where
  beq
    | .number left, .number right => left == right
    | .expression left, .expression right => left == right
    | _, _ => false

/-- The number of an argument that is one. -/
def Scalar.number? : Scalar → Option Binary64
  | .number value => some value
  | .expression _ => none

/-- A small whole number as an argument. -/
def Scalar.ofNat (value : Nat) : Scalar := .number (.ofSmall value)

/-- An argument for two axes. -/
inductive Vec2 where
  /-- One argument for both axes. -/
  | uniform (value : Scalar)
  | components (x y : Scalar)
deriving DecidableEq, BEq, Inhabited

/-- An argument for three axes. -/
inductive Vec3 where
  /-- One argument for all axes. -/
  | uniform (value : Scalar)
  | components (x y z : Scalar)
deriving DecidableEq, BEq, Inhabited

/-- One for both axes: the size and the scale that stand in for missing or unfit ones. -/
def Vec2.one : Vec2 := .uniform (.ofNat 1)

/-- Zero on each of three axes: what unfit offsets, angles and sizes become. -/
def Vec3.zero : Vec3 := .components (.ofNat 0) (.ofNat 0) (.ofNat 0)

/-- One on each of three axes: what unfit factors of a scaling become. -/
def Vec3.one : Vec3 := .components (.ofNat 1) (.ofNat 1) (.ofNat 1)

/-- A point with a coordinate for each of `axes` axes. -/
abbrev Point (axes : Nat) := Vector Binary64 axes

/-- Lists of positions in a list of points: the faces of a solid or the paths of an outline. -/
abbrev Rows := List (List Binary64)

end SolidScene
