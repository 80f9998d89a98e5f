/-
This file gives payloads their JSON form: an object with the tag of the kind and
every field, missing ones as null. A payload is read from such an object, in any
order and with other entries ignored, or from a list that starts with the tag of the
kind and goes on with the fields.

Reading and writing are not written field by field for each kind. A kind has a
record, which is put together from the names of its fields and says by their types
how each of them is read, from an object or from a list; and it has its entries,
which are written one after the other. Both go through the fields in the same order.
Property bags are another way to make a payload, and a loose one; here a value that
does not fit is a misfit, and nothing is replaced by a fallback.
-/
import SolidScene.Node.Record

namespace SolidScene.Payload

open Record (field)

/-! ### Fields -/

/-- The fields of a sphere or a circle. -/
def roundRecord : Record Round :=
  Round.mk <$> field "r" <*> field "d" <*> field "$fn"

/-- The fields of each kind, in order. -/
def record : Kind → Record Payload
  | .cube => Payload.cube <$> field "size" <*> field "center"
  | .sphere => Payload.sphere <$> roundRecord
  | .cylinder => Payload.cylinder <$>
      (Cylinder.mk <$> field "h" <*> field "r1" <*> field "r2" <*> field "$fn")
  | .polyhedron => Payload.polyhedron <$>
      (Polyhedron.mk <$> field "points" <*> field "faces" <*> field "convexity")
  | .square => Payload.square <$> field "size" <*> field "center"
  | .circle => Payload.circle <$> roundRecord
  | .polygon => Payload.polygon <$>
      (Polygon.mk <$> field "points" <*> field "paths" <*> field "convexity")
  | .union => pure .union
  | .difference => pure .difference
  | .intersection => pure .intersection
  | .translate => Payload.translate <$> field "v"
  | .rotate => Payload.rotate <$> field "a" <*> field "v"
  | .scale => Payload.scale <$> field "v"
  | .linearExtrude => Payload.linearExtrude <$>
      (LinearExtrusion.mk <$> field "height" <*> field "center" <*> field "twist" <*>
        field "scale" <*> field "convexity" <*> field "slices" <*> field "$fn")
  | .rotateExtrude => Payload.rotateExtrude <$>
      (RotateExtrusion.mk <$> field "angle" <*> field "convexity" <*> field "$fn")
  | .text => Payload.text <$>
      (Lettering.mk <$> field "text" <*> field "size" <*> field "font" <*> field "halign" <*>
        field "valign" <*> field "direction" <*> field "language" <*> field "script" <*>
        field "spacing")
  | .surface => Payload.surface <$>
      (HeightMap.mk <$> field "file" <*> field "center" <*> field "invert" <*> field "convexity")
  | .imported => Payload.imported <$>
      (ImportedFile.mk <$> field "file" <*> field "convexity" <*> field "layer")
  | .group => pure .group
  | .raw => Payload.raw <$> field "code"
  | .unknown => Payload.unknown <$> field "type" <*> field "props"

/-- A field as an entry of the JSON form. -/
def entry {α : Type} [Field α] (name : String) (value : α) : String × Json :=
  (name, Field.write value)

/-- The fields of a payload as entries, under the names of its record. -/
def entries : Payload → Props
  | cube size center => [entry "size" size, entry "center" center]
  | sphere shape | circle shape =>
    [entry "r" shape.radius, entry "d" shape.diameter, entry "$fn" shape.resolution]
  | cylinder shape =>
    [entry "h" shape.height, entry "r1" shape.bottom, entry "r2" shape.top,
      entry "$fn" shape.resolution]
  | polyhedron shape =>
    [entry "points" shape.points, entry "faces" shape.faces, entry "convexity" shape.convexity]
  | square size center => [entry "size" size, entry "center" center]
  | polygon shape =>
    [entry "points" shape.points, entry "paths" shape.paths, entry "convexity" shape.convexity]
  | union | difference | intersection | group => []
  | translate offset => [entry "v" offset]
  | rotate angles axis => [entry "a" angles, entry "v" axis]
  | scale factors => [entry "v" factors]
  | linearExtrude extrusion =>
    [entry "height" extrusion.height, entry "center" extrusion.center,
      entry "twist" extrusion.twist, entry "scale" extrusion.scale,
      entry "convexity" extrusion.convexity, entry "slices" extrusion.slices,
      entry "$fn" extrusion.resolution]
  | rotateExtrude extrusion =>
    [entry "angle" extrusion.angle, entry "convexity" extrusion.convexity,
      entry "$fn" extrusion.resolution]
  | text lettering =>
    [entry "text" lettering.text, entry "size" lettering.size, entry "font" lettering.font,
      entry "halign" lettering.horizontal, entry "valign" lettering.vertical,
      entry "direction" lettering.direction, entry "language" lettering.language,
      entry "script" lettering.script, entry "spacing" lettering.spacing]
  | surface map =>
    [entry "file" map.file, entry "center" map.center, entry "invert" map.invert,
      entry "convexity" map.convexity]
  | imported source =>
    [entry "file" source.file, entry "convexity" source.convexity, entry "layer" source.layer]
  | raw code => [entry "code" code]
  | unknown name props => [entry "type" name, entry "props" props]

/-! ### Payloads -/

/-- The JSON form of a payload. -/
def toJson (payload : Payload) : Json :=
  .object (("kind", .string payload.kind.tag) :: payload.entries)

/-- The kind that a JSON value names inside the JSON form of a payload. -/
def readKind : Json → Except Misfit Kind
  | .string name => Field.readWord name
  | found => .error (.wrongType found .kindName)

/-- The payload of a JSON value, or why there is none. -/
def ofJson : Json → Except Misfit Payload
  | .object entries =>
    match Props.value? entries "kind" with
    | none => .error (.missing "kind")
    | some named => do (record (← readKind named)).ofEntries entries
  | .array [] => .error (.missing "kind")
  | .array (named :: items) => do
    let kind ← readKind named
    (record kind).ofItems (.fields kind (record kind).size) items
  | found => .error (.wrongType found .node)

end SolidScene.Payload

namespace SolidScene.Kind

/-- A kind by itself as a value. -/
def toJson (kind : Kind) : Json := .string kind.tag

/-- The kind that a JSON value by itself stands for: its name, or an object with nothing but
its name and null. -/
def ofJson? : Json → Option Kind
  | .string name => Keyword.ofWord? name
  | .object [(name, .null)] => Keyword.ofWord? name
  | _ => none

end SolidScene.Kind
