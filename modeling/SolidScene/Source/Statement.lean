/-
This file writes payloads in the solid modelling language. What a payload writes by
itself takes one of four forms: a statement that ends with a semicolon, the head of
a block for the children, text that is passed through, or a remark about a name that
is not known. The text of a node follows from the form and the text of the children.

The form of a payload does not know where the node stands, and the text of a form
does not know the payload any more: how a node is indented and how its children are
put between braces is said once for each of the four forms and not for each of the
kinds. A statement drops the text of its children, which is why the nodes below a
cube are generated but do not show up. Arguments that are missing are left out, and
arguments with a name keep the order in which they are listed here.
-/
import SolidScene.Node.Payload
import SolidScene.Source.Numeral
import SolidScene.Source.Quoted
import SolidScene.Text.Blank

namespace SolidScene

namespace Source

/-! ### Literals -/

/-- A list between brackets. -/
def bracketed (items : List String) : String := "[" ++ ", ".intercalate items ++ "]"

/-- A number, or an expression as it stands. -/
def scalar : Scalar → String
  | .number value => numeral value
  | .expression text => text

/-- One argument for both axes, or a list. -/
def vec2 : Vec2 → String
  | .uniform value => scalar value
  | .components x y => bracketed [scalar x, scalar y]

/-- One argument for all axes, or a list. -/
def vec3 : Vec3 → String
  | .uniform value => scalar value
  | .components x y z => bracketed [scalar x, scalar y, scalar z]

/-- Rows of positions, as a list of lists. -/
def rows (rows : Rows) : String := bracketed (rows.map fun row => bracketed (row.map numeral))

/-- Points as rows of their coordinates. -/
def points {axes : Nat} (points : List (Point axes)) : String :=
  rows (points.map Vector.toList)

/-- A truth value as a word. -/
def flag (value : Bool) : String := if value then "true" else "false"

/-! ### Calls -/

/-- A named argument of a call. -/
def argument (name value : String) : String := name ++ " = " ++ value

/-- A named argument that is left out when it is missing. -/
def optional {α : Type} (name : String) (write : α → String) : Option α → List String
  | some value => [argument name (write value)]
  | none => []

/-- A named argument that is left out when it is false. -/
def whenTrue (name : String) (value : Bool) : List String :=
  if value then [argument name "true"] else []

/-- A call of a function with its arguments, in order. -/
def call (name : String) (arguments : List String) : String :=
  name ++ "(" ++ ", ".intercalate arguments ++ ")"

/-- A keyword as a string literal. -/
def keyword {α : Type} [Keyword α] (value : α) : String := quote (Keyword.word value)

/-- The arguments of a sphere or a circle: the diameter if there is one, else the radius. -/
def roundArguments (shape : Round) : List String :=
  (match shape.diameter, shape.radius with
    | some diameter, _ => argument "d" (scalar diameter)
    | none, some radius => argument "r" (scalar radius)
    | none, none => argument "r" "1") :: optional "$fn" numeral shape.resolution

/-! ### Forms -/

/-- What a payload writes by itself. -/
inductive Form where
  /-- A statement without its semicolon, whatever the children are. -/
  | statement (call : String)
  /-- The head of a block around the children. -/
  | block (head : String)
  /-- Text that is passed through, whatever the children are. -/
  | verbatim (code : String)
  /-- A remark in front of a block around the children. -/
  | remark (label : String)
deriving DecidableEq

/-- The form of a payload. A path list that is empty counts as missing; of a sphere and a circle the
diameter goes before the radius. -/
def form : Payload → Form
  | .cube size center => .statement (call "cube"
      [argument "size" (vec3 size), argument "center" (flag center)])
  | .sphere shape => .statement (call "sphere" (roundArguments shape))
  | .cylinder shape => .statement (call "cylinder" ([argument "h" (scalar shape.height),
      argument "r1" (scalar shape.bottom), argument "r2" (scalar shape.top)] ++
      optional "$fn" numeral shape.resolution))
  | .polyhedron shape => .statement (call "polyhedron" ([argument "points" (points shape.points),
      argument "faces" (rows shape.faces)] ++ optional "convexity" numeral shape.convexity))
  | .square size center => .statement (call "square"
      [argument "size" (vec2 size), argument "center" (flag center)])
  | .circle shape => .statement (call "circle" (roundArguments shape))
  | .polygon shape => .statement (call "polygon" (argument "points" (points shape.points) ::
      optional "paths" rows (shape.paths.filter fun paths => !paths.isEmpty) ++
      optional "convexity" numeral shape.convexity))
  | .union => .block (call "union" [])
  | .difference => .block (call "difference" [])
  | .intersection => .block (call "intersection" [])
  | .translate offset => .block (call "translate" [vec3 offset])
  | .rotate angles axis => .block (call "rotate" (vec3 angles :: (axis.map vec3).toList))
  | .scale factors => .block (call "scale" [vec3 factors])
  | .linearExtrude extrusion => .block (call "linear_extrude"
      (argument "height" (scalar extrusion.height) :: whenTrue "center" extrusion.center ++
        optional "twist" scalar extrusion.twist ++ optional "scale" vec2 extrusion.scale ++
        optional "convexity" numeral extrusion.convexity ++
        optional "slices" numeral extrusion.slices ++
        optional "$fn" numeral extrusion.resolution))
  | .rotateExtrude extrusion => .block (call "rotate_extrude"
      (optional "angle" scalar extrusion.angle ++
        optional "convexity" numeral extrusion.convexity ++
        optional "$fn" numeral extrusion.resolution))
  | .text lettering => .statement (call "text" (argument "text" (quote lettering.text) ::
      optional "size" numeral lettering.size ++ optional "font" quote lettering.font ++
      optional "halign" keyword lettering.horizontal ++
      optional "valign" keyword lettering.vertical ++
      optional "direction" keyword lettering.direction ++
      optional "language" quote lettering.language ++ optional "script" quote lettering.script ++
      optional "spacing" numeral lettering.spacing))
  | .surface map => .statement (call "surface" (argument "file" (quote map.file) ::
      whenTrue "center" map.center ++ whenTrue "invert" map.invert ++
      optional "convexity" numeral map.convexity))
  | .imported source => .statement (call "import" (quote source.file ::
      optional "convexity" numeral source.convexity ++ optional "layer" quote source.layer))
  | .group => .block ""
  | .raw code => .verbatim code
  | .unknown name _ => .remark name

/-! ### Text -/

/-- How much further in the children of a block stand. -/
def indentStep : String := "  "

/-- A text with `inserted` behind every line break. -/
def afterBreaks (inserted text : String) : String :=
  String.ofList (text.toList.flatMap fun character =>
    if character = '\n' then '\n' :: inserted.toList else [character])

/-- A text on one line: each line break is a space. -/
def onOneLine (text : String) : String :=
  text.map fun character => if character = '\r' ∨ character = '\n' then ' ' else character

/-- A block: the head, if there is one, and the inner text between braces. -/
def block (head indent inner : String) : String :=
  let opening := if head = "" then "\x7b" else head ++ " \x7b"
  if inner = "" then opening ++ "\x7d"
  else opening ++ "\n" ++ inner ++ "\n" ++ indent ++ "\x7d"

/-- The text of a node at an indent, given the text of its children. The indent is not written
in front of the first line. -/
def Form.text (indent inner : String) : Form → String
  | statement call => call ++ ";"
  | block head => Source.block head indent inner
  | verbatim code => if Text.allBlank code then "" else afterBreaks indent code
  | remark label =>
    if inner = "" then "// " ++ onOneLine label ++ " (no children)"
    else "// " ++ onOneLine label ++ "\n" ++ indent ++ "\x7b\n" ++ inner ++ "\n" ++ indent ++ "\x7d"

end Source

end SolidScene
