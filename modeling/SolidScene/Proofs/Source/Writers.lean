/-
This file generates sources with any way to write a number in the place of numerals.
With numerals the texts are the generated ones. A text with finite numbers only does
not depend on how other numbers would be written, so none of them is in it.

That a text has no numeral of an infinity in it could not be said by searching the
text, since a string or an expression may hold the same letters. So the writer of
numbers is made a parameter, and the text is shown to stay the same when the writer
is changed at numbers that are not finite. The definitions repeat those of the
generator with the writer handed down; that they are the generator's for the writer
of numerals is proved first, one equation for each, and everything else is about the
parameter.
-/
import SolidScene.Proofs.Node.Finiteness
import SolidScene.Proofs.Scene.Unfolding
import SolidScene.Proofs.Source.Blocks

namespace SolidScene

/-- An argument that is left out has no numbers. -/
theorem AllFinite.filter {α : Type} [HasNumbers α] {value? : Option α} (finite : AllFinite value?)
    (keep : α → Bool) : AllFinite (value?.filter keep) := by
  cases value? with
  | none => exact finite
  | some value =>
    rw [Option.filter_some]
    split
    · exact finite
    · exact List.forall_mem_nil _

namespace Source

section

variable (write : Binary64 → String)

/-! ### Payloads -/

/-- An argument, with another way to write numbers. -/
def scalarWith : Scalar → String
  | .number value => write value
  | .expression text => text

/-- An argument for two axes, with another way to write numbers. -/
def vec2With : Vec2 → String
  | .uniform value => scalarWith write value
  | .components x y => bracketed [scalarWith write x, scalarWith write y]

/-- An argument for three axes, with another way to write numbers. -/
def vec3With : Vec3 → String
  | .uniform value => scalarWith write value
  | .components x y z => bracketed [scalarWith write x, scalarWith write y, scalarWith write z]

/-- Rows of positions, with another way to write numbers. -/
def rowsWith (rows : Rows) : String := bracketed (rows.map fun row => bracketed (row.map write))

/-- Points, with another way to write numbers. -/
def pointsWith {axes : Nat} (points : List (Point axes)) : String :=
  rowsWith write (points.map Vector.toList)

/-- The arguments of a sphere or a circle, with another way to write numbers. -/
def roundArgumentsWith (shape : Round) : List String :=
  (match shape.diameter, shape.radius with
    | some diameter, _ => argument "d" (scalarWith write diameter)
    | none, some radius => argument "r" (scalarWith write radius)
    | none, none => argument "r" "1") :: optional "$fn" write shape.resolution

/-- What a payload writes by itself, with another way to write numbers. Payloads without numbers
write the same. -/
def formWith (payload : Payload) : Form :=
  match payload with
  | .cube size center => .statement (call "cube"
      [argument "size" (vec3With write size), argument "center" (flag center)])
  | .sphere shape => .statement (call "sphere" (roundArgumentsWith write shape))
  | .cylinder shape => .statement (call "cylinder"
      ([argument "h" (scalarWith write shape.height),
        argument "r1" (scalarWith write shape.bottom),
        argument "r2" (scalarWith write shape.top)] ++ optional "$fn" write shape.resolution))
  | .polyhedron shape => .statement (call "polyhedron"
      ([argument "points" (pointsWith write shape.points),
        argument "faces" (rowsWith write shape.faces)] ++
        optional "convexity" write shape.convexity))
  | .square size center => .statement (call "square"
      [argument "size" (vec2With write size), argument "center" (flag center)])
  | .circle shape => .statement (call "circle" (roundArgumentsWith write shape))
  | .polygon shape => .statement (call "polygon"
      (argument "points" (pointsWith write shape.points) ::
        optional "paths" (rowsWith write) (shape.paths.filter fun paths => !paths.isEmpty) ++
        optional "convexity" write shape.convexity))
  | .translate offset => .block (call "translate" [vec3With write offset])
  | .rotate angles axis =>
    .block (call "rotate" (vec3With write angles :: (axis.map (vec3With write)).toList))
  | .scale factors => .block (call "scale" [vec3With write factors])
  | .linearExtrude extrusion => .block (call "linear_extrude"
      (argument "height" (scalarWith write extrusion.height) ::
        whenTrue "center" extrusion.center ++
        optional "twist" (scalarWith write) extrusion.twist ++
        optional "scale" (vec2With write) extrusion.scale ++
        optional "convexity" write extrusion.convexity ++
        optional "slices" write extrusion.slices ++
        optional "$fn" write extrusion.resolution))
  | .rotateExtrude extrusion => .block (call "rotate_extrude"
      (optional "angle" (scalarWith write) extrusion.angle ++
        optional "convexity" write extrusion.convexity ++
        optional "$fn" write extrusion.resolution))
  | .text lettering => .statement (call "text" (argument "text" (quote lettering.text) ::
      optional "size" write lettering.size ++ optional "font" quote lettering.font ++
      optional "halign" keyword lettering.horizontal ++
      optional "valign" keyword lettering.vertical ++
      optional "direction" keyword lettering.direction ++
      optional "language" quote lettering.language ++ optional "script" quote lettering.script ++
      optional "spacing" write lettering.spacing))
  | .surface map => .statement (call "surface" (argument "file" (quote map.file) ::
      whenTrue "center" map.center ++ whenTrue "invert" map.invert ++
      optional "convexity" write map.convexity))
  | .imported source => .statement (call "import" (quote source.file ::
      optional "convexity" write source.convexity ++ optional "layer" quote source.layer))
  | .union | .difference | .intersection | .group | .raw _ | .unknown .. => form payload

end

/-! ### Numerals -/

theorem scalarWith_numeral : scalarWith numeral = scalar := by
  funext value
  cases value <;> rfl

theorem vec2With_numeral : vec2With numeral = vec2 := by
  funext value
  cases value <;> simp only [vec2With, vec2, scalarWith_numeral]

theorem vec3With_numeral : vec3With numeral = vec3 := by
  funext value
  cases value <;> simp only [vec3With, vec3, scalarWith_numeral]

theorem rowsWith_numeral : rowsWith numeral = rows := rfl

theorem roundArgumentsWith_numeral (shape : Round) :
    roundArgumentsWith numeral shape = roundArguments shape := by
  rw [roundArgumentsWith, scalarWith_numeral]
  rfl

/-- With numerals the form of a payload is the generated one. -/
theorem formWith_numeral (payload : Payload) : formWith numeral payload = form payload := by
  cases payload <;>
    simp only [formWith, form, roundArgumentsWith_numeral, pointsWith, points,
      scalarWith_numeral, vec2With_numeral, vec3With_numeral, rowsWith_numeral]

/-! ### Finite numbers -/

section

variable {write other : Binary64 → String}
  (agree : ∀ number : Binary64, number.isFinite → write number = other number)

include agree

/-- A finite argument is written alike by ways that agree on finite numbers. -/
theorem scalarWith_congr {value : Scalar} (finite : AllFinite value) :
    scalarWith write value = scalarWith other value := by
  cases value with
  | number number => exact agree number (finite number List.mem_cons_self)
  | expression text => rfl

theorem vec2With_congr {value : Vec2} (finite : AllFinite value) :
    vec2With write value = vec2With other value := by
  cases value with
  | uniform value => exact scalarWith_congr agree finite
  | components x y =>
    obtain ⟨finiteX, finiteY⟩ := List.forall_mem_append.mp finite
    simp only [vec2With, scalarWith_congr agree finiteX, scalarWith_congr agree finiteY]

theorem vec3With_congr {value : Vec3} (finite : AllFinite value) :
    vec3With write value = vec3With other value := by
  cases value with
  | uniform value => exact scalarWith_congr agree finite
  | components x y z =>
    obtain ⟨firstTwo, finiteZ⟩ := List.forall_mem_append.mp finite
    obtain ⟨finiteX, finiteY⟩ := List.forall_mem_append.mp firstTwo
    simp only [vec3With, scalarWith_congr agree finiteX, scalarWith_congr agree finiteY,
      scalarWith_congr agree finiteZ]

theorem rowsWith_congr {rows : Rows} (finite : AllFinite rows) :
    rowsWith write rows = rowsWith other rows := by
  have each : ∀ row ∈ rows, bracketed (row.map write) = bracketed (row.map other) := by
    intro row member
    have finiteRow := AllFinite.list_iff.mp (AllFinite.list_iff.mp finite row member)
    rw [List.map_congr_left fun number inside =>
      agree number (AllFinite.number_iff.mp (finiteRow number inside))]
  rw [rowsWith, rowsWith, List.map_congr_left each]

theorem pointsWith_congr {axes : Nat} {points : List (Point axes)} (finite : AllFinite points) :
    pointsWith write points = pointsWith other points := by
  refine rowsWith_congr agree (AllFinite.list_iff.mpr (List.forall_mem_map.mpr ?_))
  exact fun point member => AllFinite.toList_iff.mpr (AllFinite.list_iff.mp finite point member)

end

/-- A named argument is written alike if its value is. -/
theorem optional_congr {α : Type} [HasNumbers α] {first second : α → String}
    (same : ∀ {value : α}, AllFinite value → first value = second value) (name : String)
    {value? : Option α} (finite : AllFinite value?) :
    optional name first value? = optional name second value? := by
  cases value? with
  | none => rfl
  | some value => rw [optional, optional, same (AllFinite.some_iff.mp finite)]

section

variable {write other : Binary64 → String}
  (agree : ∀ number : Binary64, number.isFinite → write number = other number)

include agree

theorem optional_number_congr (name : String) {value? : Option Binary64}
    (finite : AllFinite value?) : optional name write value? = optional name other value? :=
  optional_congr (fun finite => agree _ (AllFinite.number_iff.mp finite)) name finite

theorem roundArgumentsWith_congr {shape : Round} (finite : AllFinite shape) :
    roundArgumentsWith write shape = roundArgumentsWith other shape := by
  obtain ⟨radius, diameter, resolution⟩ := shape
  obtain ⟨finiteRadius, finiteDiameter, finiteResolution⟩ := Round.allFinite_iff.mp finite
  rw [roundArgumentsWith, roundArgumentsWith, optional_number_congr agree _ finiteResolution]
  cases diameter with
  | some diameter => simp only [scalarWith_congr agree (AllFinite.some_iff.mp finiteDiameter)]
  | none =>
    cases radius with
    | some radius => simp only [scalarWith_congr agree (AllFinite.some_iff.mp finiteRadius)]
    | none => rfl

/-- Ways to write numbers that agree on finite ones write a payload with finite numbers alike. -/
theorem formWith_congr {payload : Payload} (finite : AllFinite payload) :
    formWith write payload = formWith other payload := by
  cases payload with
  | cube size center =>
    simp only [formWith, vec3With_congr agree (Payload.allFinite_cube_iff.mp finite)]
  | sphere shape => simp only [formWith, roundArgumentsWith_congr agree finite]
  | cylinder shape =>
    obtain ⟨height, bottom, top, resolution⟩ := Cylinder.allFinite_iff.mp finite
    simp only [formWith, scalarWith_congr agree height, scalarWith_congr agree bottom,
      scalarWith_congr agree top, optional_number_congr agree _ resolution]
  | polyhedron shape =>
    obtain ⟨points, faces, convexity⟩ := Polyhedron.allFinite_iff.mp finite
    simp only [formWith, pointsWith_congr agree points, rowsWith_congr agree faces,
      optional_number_congr agree _ convexity]
  | square size center =>
    simp only [formWith, vec2With_congr agree (Payload.allFinite_square_iff.mp finite)]
  | circle shape => simp only [formWith, roundArgumentsWith_congr agree finite]
  | polygon shape =>
    obtain ⟨points, paths, convexity⟩ := Polygon.allFinite_iff.mp finite
    simp only [formWith, pointsWith_congr agree points, optional_number_congr agree _ convexity,
      optional_congr (rowsWith_congr agree) _ (paths.filter _)]
  | translate offset => simp only [formWith, vec3With_congr agree finite]
  | rotate angles axis =>
    obtain ⟨finiteAngles, finiteAxis⟩ := List.forall_mem_append.mp finite
    cases axis with
    | none => simp only [formWith, vec3With_congr agree finiteAngles, Option.map_none]
    | some axis =>
      simp only [formWith, vec3With_congr agree finiteAngles, Option.map_some,
        vec3With_congr agree (AllFinite.some_iff.mp finiteAxis)]
  | scale factors => simp only [formWith, vec3With_congr agree finite]
  | linearExtrude extrusion =>
    obtain ⟨height, twist, scale, convexity, slices, resolution⟩ :=
      LinearExtrusion.allFinite_iff.mp finite
    simp only [formWith, scalarWith_congr agree height,
      optional_congr (scalarWith_congr agree) _ twist,
      optional_congr (vec2With_congr agree) _ scale, optional_number_congr agree _ convexity,
      optional_number_congr agree _ slices, optional_number_congr agree _ resolution]
  | rotateExtrude extrusion =>
    obtain ⟨angle, convexity, resolution⟩ := RotateExtrusion.allFinite_iff.mp finite
    simp only [formWith, optional_congr (scalarWith_congr agree) _ angle,
      optional_number_congr agree _ convexity, optional_number_congr agree _ resolution]
  | text lettering =>
    obtain ⟨size, spacing⟩ := Lettering.allFinite_iff.mp finite
    simp only [formWith, optional_number_congr agree _ size,
      optional_number_congr agree _ spacing]
  | surface map =>
    simp only [formWith, optional_number_congr agree _ (HeightMap.allFinite_iff.mp finite)]
  | imported source =>
    simp only [formWith, optional_number_congr agree _ (ImportedFile.allFinite_iff.mp finite)]
  | union | difference | intersection | group | raw | unknown => rfl

end

end Source

open Source

/-! ### Solids and scenes -/

namespace Solid

mutual

/-- The source text of a solid at an indent, with another way to write numbers. -/
def sourceWith (write : Binary64 → String) (indent : String) : Solid → String
  | .node payload children =>
    (formWith write payload).text indent
      (inner (indent ++ indentStep) (sourcesWith write (indent ++ indentStep) children))

/-- The source texts of solids at an indent, with another way to write numbers. -/
def sourcesWith (write : Binary64 → String) (indent : String) : List Solid → List String
  | [] => []
  | solid :: rest => solid.sourceWith write indent :: sourcesWith write indent rest

end

theorem sourcesWith_numeral (indent : String) (solids : List Solid) :
    sourcesWith numeral indent solids = sources indent solids := by
  induction solids using list_induction generalizing indent with
  | nil => rfl
  | cons payload children rest childrenHypothesis restHypothesis =>
    rw [sourcesWith, sources, sourceWith, source, formWith_numeral, childrenHypothesis,
      restHypothesis]

/-- Ways to write numbers that agree on finite ones give the same texts of solids in which all
numbers are finite. -/
theorem sourcesWith_congr {write other : Binary64 → String}
    (agree : ∀ number : Binary64, number.isFinite → write number = other number)
    {solids : List Solid} (finite : ∀ solid ∈ solids, solid.Holds AllFinite) (indent : String) :
    sourcesWith write indent solids = sourcesWith other indent solids := by
  induction solids using list_induction generalizing indent with
  | nil => rfl
  | cons payload children rest childrenHypothesis restHypothesis =>
    rw [List.forall_mem_cons, holds_node_iff] at finite
    obtain ⟨⟨here, below⟩, later⟩ := finite
    rw [sourcesWith, sourcesWith, sourceWith, sourceWith, formWith_congr agree here,
      childrenHypothesis below, restHypothesis later]

end Solid

namespace Scene

/-- The text of a scene, with another way to write numbers. -/
def textWith (write : Binary64 → String) (scene : Scene) : String :=
  document (Solid.sourcesWith write "" scene.solids)

/-- With numerals the text of a scene is the generated one. -/
theorem textWith_numeral (scene : Scene) : scene.textWith numeral = scene.text := by
  rw [textWith, Solid.sourcesWith_numeral, Solid.sources_eq_map, text]

/-- A text with finite numbers only is written with numerals of finite numbers. -/
theorem textWith_eq {scene : Scene} (finite : ∀ solid ∈ scene.solids, solid.Holds AllFinite)
    {write : Binary64 → String}
    (agree : ∀ number : Binary64, number.isFinite → write number = numeral number) :
    scene.textWith write = scene.text := by
  rw [← textWith_numeral, textWith, textWith, Solid.sourcesWith_congr agree finite]

end Scene

end SolidScene
