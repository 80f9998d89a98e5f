/-
This file names the kinds of nodes. A kind that can be created by name is called
known; the one left over stands for every name that is not known.

A name stands in scene documents and in reports. Where a kind has a function of its
own in the generated source, the function has this name too; groups, raw code and
the kind for unknown names have none. The title of a kind is what messages about its
fields call it, and the tag in the JSON form of typed nodes is made from the title:
it turns out to be the same word as the name, which is proved where typed nodes are
read back.

The last kind has a name like the others, but no node is created by it: a document
that uses the word `unknown` gets what every other unknown name gets.
-/
import SolidScene.Node.Keyword

namespace SolidScene

/-- A kind of nodes. -/
inductive Kind where
  | cube
  | sphere
  | cylinder
  | polyhedron
  | square
  | circle
  | polygon
  | union
  | difference
  | intersection
  | translate
  | rotate
  | scale
  | linearExtrude
  | rotateExtrude
  | text
  | surface
  | imported
  | group
  | raw
  | unknown
deriving DecidableEq, Inhabited

namespace Kind

/-- The kinds that are created by name, in order. -/
def known : List Kind :=
  [cube, sphere, cylinder, polyhedron, square, circle, polygon, union, difference, intersection,
    translate, rotate, scale, linearExtrude, rotateExtrude, text, surface, imported, group, raw]

/-- All kinds, in order; what is not known comes last. -/
def all : List Kind := known ++ [unknown]

/-- The name of a kind in documents and reports. -/
def name : Kind → String
  | cube => "cube"
  | sphere => "sphere"
  | cylinder => "cylinder"
  | polyhedron => "polyhedron"
  | square => "square"
  | circle => "circle"
  | polygon => "polygon"
  | union => "union"
  | difference => "difference"
  | intersection => "intersection"
  | translate => "translate"
  | rotate => "rotate"
  | scale => "scale"
  | linearExtrude => "linear_extrude"
  | rotateExtrude => "rotate_extrude"
  | text => "text"
  | surface => "surface"
  | imported => "import"
  | group => "group"
  | raw => "raw"
  | unknown => "unknown"

/-- The name of a kind in a message about its list of fields. -/
def title : Kind → String
  | cube => "Cube"
  | sphere => "Sphere"
  | cylinder => "Cylinder"
  | polyhedron => "Polyhedron"
  | square => "Square"
  | circle => "Circle"
  | polygon => "Polygon"
  | union => "Union"
  | difference => "Difference"
  | intersection => "Intersection"
  | translate => "Translate"
  | rotate => "Rotate"
  | scale => "Scale"
  | linearExtrude => "LinearExtrude"
  | rotateExtrude => "RotateExtrude"
  | text => "Text"
  | surface => "Surface"
  | imported => "Import"
  | group => "Group"
  | raw => "Raw"
  | unknown => "Unknown"

/-- A title in small letters, with an underscore in front of each further word. -/
def snakeCase (title : String) : String :=
  match title.toList with
  | [] => ""
  | first :: rest =>
    String.ofList (first.toLower :: rest.flatMap fun letter =>
      if letter.isUpper then ['_', letter.toLower] else [letter])

/-- The word that stands for a kind in the JSON form of typed nodes. -/
def tag (kind : Kind) : String := snakeCase kind.title

/-- The position of a kind in the list of all. -/
def index (kind : Kind) : Nat := all.idxOf kind

/-- The known kind of a name. The name of the kind for unknown names is itself unknown. -/
def ofName? (name : String) : Option Kind := known.find? fun kind => kind.name = name

end Kind

/-- Documents of typed nodes may name every kind. -/
instance : Keyword Kind := ⟨Kind.all, Kind.tag⟩

end SolidScene
