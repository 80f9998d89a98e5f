/-
This file holds what a node is, apart from its children: a shape, an operation on
the children, a piece of source text, or a name that is not known. A field that may
be missing is missing in the generated source too, so the fields keep apart what was
never said and what was said to be the default.

Shapes with several fields are structures of their own, since a bag changes them
field by field and both round shapes have the same fields. The kind of a payload is
its constructor; nothing that changes a payload changes the kind. A node of an
unknown kind keeps its properties as they were given, as it has no fields to read
them into.
-/
import SolidScene.Node.Alignment
import SolidScene.Node.Kind
import SolidScene.Node.Vector

namespace SolidScene

/-- A sphere or a circle. -/
structure Round where
  radius : Option Scalar
  /-- Counts before the radius. -/
  diameter : Option Scalar
  resolution : Option Binary64
deriving BEq, Inhabited

/-- A cylinder or a cone. -/
structure Cylinder where
  height : Scalar
  bottom : Scalar
  top : Scalar
  resolution : Option Binary64
deriving BEq, Inhabited

/-- A solid of points and faces. -/
structure Polyhedron where
  points : List (Point 3)
  faces : Rows
  convexity : Option Binary64
deriving BEq, Inhabited

/-- An outline of points, in order or along paths. -/
structure Polygon where
  points : List (Point 2)
  paths : Option Rows
  convexity : Option Binary64
deriving BEq, Inhabited

/-- An extrusion along the third axis. -/
structure LinearExtrusion where
  height : Scalar
  center : Bool
  twist : Option Scalar
  scale : Option Vec2
  convexity : Option Binary64
  slices : Option Binary64
  resolution : Option Binary64
deriving BEq, Inhabited

/-- An extrusion around the third axis. -/
structure RotateExtrusion where
  angle : Option Scalar
  convexity : Option Binary64
  resolution : Option Binary64
deriving BEq, Inhabited

/-- The outline of a text. -/
structure Lettering where
  text : String
  size : Option Binary64
  font : Option String
  horizontal : Option HorizontalAlignment
  vertical : Option VerticalAlignment
  direction : Option WritingDirection
  language : Option String
  script : Option String
  spacing : Option Binary64
deriving BEq, Inhabited

/-- A height map from a file. -/
structure HeightMap where
  file : String
  center : Bool
  invert : Bool
  convexity : Option Binary64
deriving BEq, Inhabited

/-- Geometry from a file. -/
structure ImportedFile where
  file : String
  convexity : Option Binary64
  layer : Option String
deriving BEq, Inhabited

/-- What a node is, apart from its children. -/
inductive Payload where
  | cube (size : Vec3) (center : Bool)
  | sphere (shape : Round)
  | cylinder (shape : Cylinder)
  | polyhedron (shape : Polyhedron)
  | square (size : Vec2) (center : Bool)
  | circle (shape : Round)
  | polygon (shape : Polygon)
  | union
  | difference
  | intersection
  | translate (offset : Vec3)
  /-- Angles for the axes, or one angle about an axis. -/
  | rotate (angles : Vec3) (axis : Option Vec3)
  | scale (factors : Vec3)
  | linearExtrude (extrusion : LinearExtrusion)
  | rotateExtrude (extrusion : RotateExtrusion)
  | text (lettering : Lettering)
  | surface (map : HeightMap)
  | imported (source : ImportedFile)
  /-- The children between braces, under no name. -/
  | group
  /-- Source text that is passed through. -/
  | raw (code : String)
  /-- A node of a name that is not known, with its properties as they were given. -/
  | unknown (name : String) (props : Props)
deriving BEq, Inhabited

/-- The kind of a payload. -/
def Payload.kind : Payload → Kind
  | .cube .. => .cube
  | .sphere .. => .sphere
  | .cylinder .. => .cylinder
  | .polyhedron .. => .polyhedron
  | .square .. => .square
  | .circle .. => .circle
  | .polygon .. => .polygon
  | .union => .union
  | .difference => .difference
  | .intersection => .intersection
  | .translate .. => .translate
  | .rotate .. => .rotate
  | .scale .. => .scale
  | .linearExtrude .. => .linearExtrude
  | .rotateExtrude .. => .rotateExtrude
  | .text .. => .text
  | .surface .. => .surface
  | .imported .. => .imported
  | .group => .group
  | .raw .. => .raw
  | .unknown .. => .unknown

end SolidScene
