/-
This file turns property bags into payloads. A node starts from the defaults of its
kind, and every bag after that changes the fields that it names. A field has one or
more names, and the first that has a value counts. A node of an unknown kind keeps
its bag as it is.

A change of a shape is made of changes of single fields, and these are all the same
function: find the first value under the names, read it, or leave the field as it
is. Only truth values and words are looked up under one name alone and changed by
values of their own type only. The names and the fallbacks stand where a field is
changed, once for all kinds that share the field.

To create a node is to update the default, with one exception: the top of a new
cylinder follows the bottom.
-/
import SolidScene.Node.Payload
import SolidScene.Props.Coercion

namespace SolidScene

/-! ### The names of fields -/

namespace Names

/-- The names of a radius. -/
def radius : List String := ["r", "radius"]

/-- The names of a diameter. -/
def diameter : List String := ["d", "diameter"]

/-- The bottom radius of a cylinder, for which the names of a plain radius stand, too. -/
def bottom : List String := ["r1", "r", "radius"]

/-- The name of the top radius of a cylinder. -/
def top : List String := ["r2"]

/-- The names of the height of a cylinder or an extrusion. -/
def height : List String := ["height", "h"]

/-- The names of the number of segments of a round shape. -/
def resolution : List String := ["$fn", "fn"]

/-- The name of the number of faces that a ray may meet. -/
def convexity : List String := ["convexity"]

/-- The offset of a translation, the axis of a rotation or the factors of a scaling. -/
def vector : List String := ["v", "vector"]

/-- The names of the angles of a rotation. -/
def angles : List String := ["a", "angle", "angles"]

/-- The names of the text of a lettering. -/
def text : List String := ["text", "t"]

/-- The file of a height map or of imported geometry. -/
def file : List String := ["file", "filename"]

end Names

/-! ### Changing one field -/

namespace Props

/-- A field that a bag may change. -/
def set {α : Type} (bag : Props) (names : List String) (read : Json → α) (current : α) : α :=
  match bag.first? names with
  | some json => read json
  | none => current

/-- A field that may be missing, and that a bag may change but not remove. -/
def set? {α : Type} (bag : Props) (names : List String) (read : Json → α)
    (current : Option α) : Option α :=
  bag.set names (fun json => some (read json)) current

/-- A truth value, which only another truth value changes. -/
def setFlag (bag : Props) (name : String) (current : Bool) : Bool :=
  ((bag.value? name).bind Json.bool?).getD current

/-- A word from a fixed list, which only another word of the list changes. -/
def setWord? {α : Type} [Keyword α] (bag : Props) (name : String) (current : Option α) :
    Option α :=
  (((bag.value? name).bind Json.string?).bind Keyword.ofWord?).or current

/-- A number that may be missing, with the fallback of a value without a meaning. -/
def setNumber? (bag : Props) (names : List String) (fallback : Nat) :
    Option Binary64 → Option Binary64 :=
  bag.set? names (Json.numberOr (.ofSmall fallback))

/-- An argument that may be missing, with the fallback of a value without a meaning. -/
def setScalar? (bag : Props) (names : List String) (fallback : Nat) :
    Option Scalar → Option Scalar :=
  bag.set? names (Json.scalarOr (.ofSmall fallback))

/-- An argument that is always there. -/
def setScalar (bag : Props) (names : List String) (fallback : Nat) : Scalar → Scalar :=
  bag.set names (Json.scalarOr (.ofSmall fallback))

/-- A text that may be missing; every value but null has one. -/
def setText? (bag : Props) (names : List String) : Option String → Option String :=
  bag.set? names Json.asText

/-- The resolution, which is zero if its value has no meaning. -/
def setResolution (bag : Props) : Option Binary64 → Option Binary64 :=
  bag.setNumber? Names.resolution 0

/-- The convexity, which is one if its value has no meaning. -/
def setConvexity (bag : Props) : Option Binary64 → Option Binary64 :=
  bag.setNumber? Names.convexity 1

end Props

/-! ### Changing a shape -/

/-- A radius without a meaning is one, and a diameter two. -/
def Round.update (bag : Props) (shape : Round) : Round where
  radius := bag.setScalar? Names.radius 1 shape.radius
  diameter := bag.setScalar? Names.diameter 2 shape.diameter
  resolution := bag.setResolution shape.resolution

/-- A top radius without a meaning is the bottom radius, if that is a number. -/
def Cylinder.update (bag : Props) (shape : Cylinder) : Cylinder :=
  let bottom := bag.setScalar Names.bottom 1 shape.bottom
  { height := bag.setScalar Names.height 1 shape.height
    bottom
    top := bag.set Names.top (Json.scalarOr (bottom.number?.getD (.ofSmall 1))) shape.top
    resolution := bag.setResolution shape.resolution }

/-- A new cylinder is as wide at the top as at the bottom unless the bag says otherwise; a top
radius without a meaning is then one. -/
def Cylinder.settle (bag : Props) (shape : Cylinder) : Cylinder :=
  { shape with top := bag.setScalar Names.top 1 shape.bottom }

/-- The lists are replaced as a whole. -/
def Polyhedron.update (bag : Props) (shape : Polyhedron) : Polyhedron where
  points := bag.set ["points"] (Json.points 3) shape.points
  faces := bag.set ["faces"] Json.rows shape.faces
  convexity := bag.setConvexity shape.convexity

/-- The lists are replaced as a whole; paths stay missing until a bag names them. -/
def Polygon.update (bag : Props) (shape : Polygon) : Polygon where
  points := bag.set ["points"] (Json.points 2) shape.points
  paths := bag.set? ["paths"] Json.rows shape.paths
  convexity := bag.setConvexity shape.convexity

/-- A height or a scale without a meaning is one, and a twist zero. -/
def LinearExtrusion.update (bag : Props) (extrusion : LinearExtrusion) : LinearExtrusion where
  height := bag.setScalar Names.height 1 extrusion.height
  center := bag.setFlag "center" extrusion.center
  twist := bag.setScalar? ["twist"] 0 extrusion.twist
  scale := bag.set? ["scale"] (Json.vec2Or .one) extrusion.scale
  convexity := bag.setConvexity extrusion.convexity
  slices := bag.setNumber? ["slices"] 0 extrusion.slices
  resolution := bag.setResolution extrusion.resolution

/-- An angle without a meaning is a full turn. -/
def RotateExtrusion.update (bag : Props) (extrusion : RotateExtrusion) : RotateExtrusion where
  angle := bag.setScalar? ["angle"] 360 extrusion.angle
  convexity := bag.setConvexity extrusion.convexity
  resolution := bag.setResolution extrusion.resolution

/-- A size without a meaning is ten, and a spacing one; a word that is not in its list changes
nothing. -/
def Lettering.update (bag : Props) (lettering : Lettering) : Lettering where
  text := bag.set Names.text Json.asText lettering.text
  size := bag.setNumber? ["size"] 10 lettering.size
  font := bag.setText? ["font"] lettering.font
  horizontal := bag.setWord? "halign" lettering.horizontal
  vertical := bag.setWord? "valign" lettering.vertical
  direction := bag.setWord? "direction" lettering.direction
  language := bag.setText? ["language"] lettering.language
  script := bag.setText? ["script"] lettering.script
  spacing := bag.setNumber? ["spacing"] 1 lettering.spacing

/-- Every value but null names a file, by its text. -/
def HeightMap.update (bag : Props) (map : HeightMap) : HeightMap where
  file := bag.set Names.file Json.asText map.file
  center := bag.setFlag "center" map.center
  invert := bag.setFlag "invert" map.invert
  convexity := bag.setConvexity map.convexity

/-- Every value but null names a file, by its text. -/
def ImportedFile.update (bag : Props) (source : ImportedFile) : ImportedFile where
  file := bag.set Names.file Json.asText source.file
  convexity := bag.setConvexity source.convexity
  layer := bag.setText? ["layer"] source.layer

/-! ### Changing a payload -/

namespace Payload

/-- A payload after a bag was applied. Only the fields that the bag names change, except that
the bag of an unknown node is replaced as a whole. -/
def update (bag : Props) : Payload → Payload
  | cube size center =>
    cube (bag.set ["size"] (Json.vec3Or .zero) size) (bag.setFlag "center" center)
  | sphere shape => sphere (shape.update bag)
  | cylinder shape => cylinder (shape.update bag)
  | polyhedron shape => polyhedron (shape.update bag)
  | square size center =>
    square (bag.set ["size"] (Json.vec2Or .one) size) (bag.setFlag "center" center)
  | circle shape => circle (shape.update bag)
  | polygon shape => polygon (shape.update bag)
  | union => union
  | difference => difference
  | intersection => intersection
  | translate offset => translate (bag.set Names.vector (Json.vec3Or .zero) offset)
  | rotate angles axis =>
    rotate (bag.set Names.angles (Json.vec3Or .zero) angles)
      (bag.set? Names.vector (Json.vec3Or .zero) axis)
  | scale factors => scale (bag.set Names.vector (Json.vec3Or .one) factors)
  | linearExtrude extrusion => linearExtrude (extrusion.update bag)
  | rotateExtrude extrusion => rotateExtrude (extrusion.update bag)
  | text lettering => text (lettering.update bag)
  | surface map => surface (map.update bag)
  | imported source => imported (source.update bag)
  | group => group
  | raw code => raw (bag.set ["code"] Json.asText code)
  | unknown name _ => unknown name bag

/-- What only a new payload takes from its bag. -/
def settle (bag : Props) : Payload → Payload
  | cylinder shape => cylinder (shape.settle bag)
  | payload => payload

/-- The payload of a kind before any bag was applied. -/
def default : Kind → Payload
  | .cube => cube (.uniform (.ofNat 1)) false
  | .sphere => sphere ⟨none, none, none⟩
  | .cylinder => cylinder ⟨.ofNat 1, .ofNat 1, .ofNat 1, none⟩
  | .polyhedron => polyhedron ⟨[], [], none⟩
  | .square => square .one false
  | .circle => circle ⟨none, none, none⟩
  | .polygon => polygon ⟨[], none, none⟩
  | .union => union
  | .difference => difference
  | .intersection => intersection
  | .translate => translate .zero
  | .rotate => rotate .zero none
  | .scale => scale .one
  | .linearExtrude => linearExtrude ⟨.ofNat 1, false, none, none, none, none, none⟩
  | .rotateExtrude => rotateExtrude ⟨none, none, none⟩
  | .text => text ⟨"", none, none, none, none, none, none, none, none⟩
  | .surface => surface ⟨"", false, false, none⟩
  | .imported => imported ⟨"", none, none⟩
  | .group => group
  | .raw => raw ""
  | .unknown => unknown Kind.unknown.name []

/-- A new payload of a named kind. A name that is not known is kept, with the bag. -/
def create (name : String) (bag : Props) : Payload :=
  match Kind.ofName? name with
  | some kind => ((default kind).update bag).settle bag
  | none => unknown name bag

end Payload

end SolidScene
