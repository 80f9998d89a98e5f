/-
This file shows that a property bag brings no other numbers than finite ones into
the fields of a node, whatever is in the bag. A reading that finds no finite number
gives the fallback that the field names, so it is enough that the fallbacks and the
numbers held before are finite. The defaults of every kind are, and one fallback is
itself a number held by the node.

The facts follow the model from the inside out: first the readings of a single
value, then the ways in which a bag sets a field, then the shapes with several
fields, and then the payloads. Only at the last step does the kind matter. A node of
an unknown name is the exception throughout, since it takes a bag over as it is; for
it the numbers of the bag are asked to be finite, which those of a document always
are.
-/
import SolidScene.Props.Update
import SolidScene.Proofs.Node.RoundTrip

namespace SolidScene

namespace Binary64

/-- Small whole numbers are finite. -/
theorem isFinite_ofSmall (value : Nat) : (ofSmall value).isFinite := by
  rw [ofSmall]
  cases found : ofDecimal? false value 0 with
  | none => exact isFinite_zero false
  | some number => exact isFinite_of_ofDecimal? found

end Binary64

/-! ### Values with finite numbers -/

namespace AllFinite

theorem number_iff {number : Binary64} : AllFinite number ↔ number.isFinite := by
  simp [AllFinite, HasNumbers.numbers]

theorem list_iff {α : Type} [HasNumbers α] {values : List α} :
    AllFinite values ↔ ∀ value ∈ values, AllFinite value := by
  simp only [AllFinite, HasNumbers.numbers, List.forall_mem_flatMap]

theorem point_iff {axes : Nat} {point : Point axes} :
    AllFinite point ↔ ∀ number ∈ point, number.isFinite := by
  simp only [AllFinite, HasNumbers.numbers, Vector.mem_toList_iff]

theorem scalar_ofNat (value : Nat) : AllFinite (Scalar.ofNat value) := by
  simp [AllFinite, HasNumbers.numbers, Scalar.ofNat, Scalar.number?, Binary64.isFinite_ofSmall]

theorem vec2_one : AllFinite Vec2.one := scalar_ofNat 1

/-- A vector of three components has finite numbers when each of them has. -/
theorem components {x y z : Scalar} (finiteX : AllFinite x) (finiteY : AllFinite y)
    (finiteZ : AllFinite z) : AllFinite (Vec3.components x y z) :=
  List.forall_mem_append.mpr ⟨List.forall_mem_append.mpr ⟨finiteX, finiteY⟩, finiteZ⟩

theorem vec3_zero : AllFinite Vec3.zero :=
  components (scalar_ofNat 0) (scalar_ofNat 0) (scalar_ofNat 0)

theorem vec3_one : AllFinite Vec3.one :=
  components (scalar_ofNat 1) (scalar_ofNat 1) (scalar_ofNat 1)

end AllFinite

/-! ### Readings -/

namespace Json

/-- The numeric reading of a value is finite, if there is one. -/
theorem isFinite_of_number? {json : Json} {number : Binary64}
    (found : json.number? = some number) : number.isFinite := by
  cases json with
  | number value =>
    rw [number?, Option.filter_eq_some_iff] at found
    exact found.2
  | bool value =>
    cases found
    exact Binary64.isFinite_ofSmall _
  | null =>
    cases found
    exact Binary64.isFinite_ofSmall 0
  | string | array | object => cases found

/-- A field for a number is finite as soon as its fallback is. -/
theorem isFinite_numberOr {fallback : Binary64} (finite : fallback.isFinite) (json : Json) :
    (json.numberOr fallback).isFinite := by
  rw [numberOr]
  cases found : json.number? with
  | none => exact finite
  | some number => exact isFinite_of_number? found

/-- An argument has finite numbers as soon as its fallback is finite; an expression has none. -/
theorem allFinite_scalarOr {fallback : Binary64} (finite : fallback.isFinite) (json : Json) :
    AllFinite (json.scalarOr fallback) := by
  unfold scalarOr
  split
  case h_1 => exact List.forall_mem_nil _
  case h_2 => exact List.forall_mem_singleton.mpr (isFinite_numberOr finite json)

theorem allFinite_component (json : Json) : AllFinite json.component :=
  allFinite_scalarOr (Binary64.isFinite_ofSmall 0) json

theorem allFinite_vec2Or {fallback : Vec2} (finite : AllFinite fallback) (json : Json) :
    AllFinite (json.vec2Or fallback) := by
  unfold vec2Or
  split
  case h_1 => exact List.forall_mem_nil _
  case h_2 value => exact allFinite_component (.number value)
  case h_3 x y _ =>
    exact List.forall_mem_append.mpr ⟨allFinite_component x, allFinite_component y⟩
  case h_4 => exact finite

theorem allFinite_vec3Or {fallback : Vec3} (finite : AllFinite fallback) (json : Json) :
    AllFinite (json.vec3Or fallback) := by
  unfold vec3Or
  split
  case h_1 => exact List.forall_mem_nil _
  case h_2 value => exact allFinite_component (.number value)
  case h_3 x y z _ =>
    exact .components (allFinite_component x) (allFinite_component y) (allFinite_component z)
  case h_4 => exact finite

/-- What stands in a list is zero where it is no finite number. -/
theorem isFinite_item (json : Json) : (json.numberOr (.ofSmall 0)).isFinite :=
  isFinite_numberOr (Binary64.isFinite_ofSmall 0) json

theorem allFinite_origin (axes : Nat) :
    AllFinite (Vector.replicate axes (Binary64.ofSmall 0)) := by
  refine AllFinite.point_iff.mpr fun number member => ?_
  rw [(Vector.mem_replicate.mp member).2]
  exact Binary64.isFinite_ofSmall 0

theorem allFinite_point (axes : Nat) (json : Json) : AllFinite (json.point axes) := by
  unfold point
  split
  case h_1 items =>
    split
    case isTrue =>
      refine AllFinite.point_iff.mpr fun number member => ?_
      obtain ⟨axis, rfl⟩ := Vector.mem_ofFn.mp member
      exact isFinite_item _
    case isFalse => exact allFinite_origin axes
  case h_2 => exact allFinite_origin axes

/-- Points have finite coordinates, whatever the value is that they are read from. -/
theorem allFinite_points (axes : Nat) (json : Json) : AllFinite (json.points axes) := by
  unfold points
  split
  case h_1 rows =>
    exact AllFinite.list_iff.mpr (List.forall_mem_map.mpr fun row _ => allFinite_point axes row)
  case h_2 => exact List.forall_mem_nil _

theorem allFinite_row (json : Json) : AllFinite json.row := by
  unfold row
  split
  case h_1 items =>
    exact AllFinite.list_iff.mpr (List.forall_mem_map.mpr fun item _ =>
      AllFinite.number_iff.mpr (isFinite_item item))
  case h_2 => exact List.forall_mem_nil _

theorem allFinite_rows (json : Json) : AllFinite json.rows := by
  unfold rows
  split
  case h_1 rows =>
    exact AllFinite.list_iff.mpr (List.forall_mem_map.mpr fun row _ => allFinite_row row)
  case h_2 => exact List.forall_mem_nil _

end Json

/-! ### Fields after a bag was applied -/

namespace Props

section

variable {α : Type} [HasNumbers α] {read : Json → α} (bag : Props) (names : List String)

/-- A field keeps its finite numbers or gets those of a reading that gives no others. -/
theorem allFinite_set (reads : ∀ json, AllFinite (read json)) {current : α}
    (held : AllFinite current) : AllFinite (bag.set names read current) := by
  unfold set
  split
  case h_1 json _ => exact reads json
  case h_2 => exact held

theorem allFinite_set? (reads : ∀ json, AllFinite (read json)) {current : Option α}
    (held : AllFinite current) : AllFinite (bag.set? names read current) :=
  bag.allFinite_set names (fun json => AllFinite.some_iff.mpr (reads json)) held

end

variable (bag : Props) {names : List String} {fallback : Nat}

theorem allFinite_setNumber? {current : Option Binary64} (held : AllFinite current) :
    AllFinite (bag.setNumber? names fallback current) :=
  bag.allFinite_set? names
    (fun json => AllFinite.number_iff.mpr
      (Json.isFinite_numberOr (Binary64.isFinite_ofSmall fallback) json)) held

theorem allFinite_setScalar? {current : Option Scalar} (held : AllFinite current) :
    AllFinite (bag.setScalar? names fallback current) :=
  bag.allFinite_set? names (Json.allFinite_scalarOr (Binary64.isFinite_ofSmall fallback)) held

theorem allFinite_setScalar {current : Scalar} (held : AllFinite current) :
    AllFinite (bag.setScalar names fallback current) :=
  bag.allFinite_set names (Json.allFinite_scalarOr (Binary64.isFinite_ofSmall fallback)) held

end Props

/-! ### Shapes after a bag was applied -/

section

open HasNumbers

variable (bag : Props)

theorem Round.allFinite_iff {shape : Round} :
    AllFinite shape ↔
      AllFinite shape.radius ∧ AllFinite shape.diameter ∧ AllFinite shape.resolution := by
  simp only [AllFinite, numbers, List.forall_mem_append, and_assoc]

theorem Round.allFinite_update {shape : Round} (finite : AllFinite shape) :
    AllFinite (shape.update bag) := by
  obtain ⟨radius, diameter, resolution⟩ := allFinite_iff.mp finite
  exact allFinite_iff.mpr ⟨bag.allFinite_setScalar? radius, bag.allFinite_setScalar? diameter,
    bag.allFinite_setNumber? resolution⟩

theorem Cylinder.allFinite_iff {shape : Cylinder} :
    AllFinite shape ↔ AllFinite shape.height ∧ AllFinite shape.bottom ∧ AllFinite shape.top ∧
      AllFinite shape.resolution := by
  simp only [AllFinite, numbers, List.forall_mem_append, and_assoc]

/-- A number in the place of an expression is finite if the other one is. -/
theorem isFinite_number?_getD {value : Scalar} (finite : AllFinite value) {other : Binary64}
    (otherFinite : other.isFinite) : (value.number?.getD other).isFinite := by
  cases value with
  | number number => exact finite number List.mem_cons_self
  | expression => exact otherFinite

/-- The fallback of the top radius is the bottom radius after the bag, which is finite first. -/
theorem Cylinder.allFinite_update {shape : Cylinder} (finite : AllFinite shape) :
    AllFinite (shape.update bag) := by
  obtain ⟨height, bottom, top, resolution⟩ := allFinite_iff.mp finite
  have bottom : AllFinite (bag.setScalar Names.bottom 1 shape.bottom) :=
    bag.allFinite_setScalar bottom
  have fallback := isFinite_number?_getD bottom (Binary64.isFinite_ofSmall 1)
  exact allFinite_iff.mpr ⟨bag.allFinite_setScalar height, bottom,
    bag.allFinite_set _ (Json.allFinite_scalarOr fallback) top,
    bag.allFinite_setNumber? resolution⟩

/-- A new cylinder may take its top radius from its bottom radius, which is finite. -/
theorem Cylinder.allFinite_settle {shape : Cylinder} (finite : AllFinite shape) :
    AllFinite (shape.settle bag) := by
  obtain ⟨height, bottom, -, resolution⟩ := allFinite_iff.mp finite
  exact allFinite_iff.mpr ⟨height, bottom, bag.allFinite_setScalar bottom, resolution⟩

theorem Polyhedron.allFinite_iff {shape : Polyhedron} :
    AllFinite shape ↔
      AllFinite shape.points ∧ AllFinite shape.faces ∧ AllFinite shape.convexity := by
  simp only [AllFinite, numbers, List.forall_mem_append, and_assoc]

theorem Polyhedron.allFinite_update {shape : Polyhedron} (finite : AllFinite shape) :
    AllFinite (shape.update bag) := by
  obtain ⟨points, faces, convexity⟩ := allFinite_iff.mp finite
  exact allFinite_iff.mpr ⟨bag.allFinite_set _ (Json.allFinite_points 3) points,
    bag.allFinite_set _ Json.allFinite_rows faces, bag.allFinite_setNumber? convexity⟩

theorem Polygon.allFinite_iff {shape : Polygon} :
    AllFinite shape ↔
      AllFinite shape.points ∧ AllFinite shape.paths ∧ AllFinite shape.convexity := by
  simp only [AllFinite, numbers, List.forall_mem_append, and_assoc]

theorem Polygon.allFinite_update {shape : Polygon} (finite : AllFinite shape) :
    AllFinite (shape.update bag) := by
  obtain ⟨points, paths, convexity⟩ := allFinite_iff.mp finite
  exact allFinite_iff.mpr ⟨bag.allFinite_set _ (Json.allFinite_points 2) points,
    bag.allFinite_set? _ Json.allFinite_rows paths, bag.allFinite_setNumber? convexity⟩

theorem LinearExtrusion.allFinite_iff {extrusion : LinearExtrusion} :
    AllFinite extrusion ↔
      AllFinite extrusion.height ∧ AllFinite extrusion.twist ∧ AllFinite extrusion.scale ∧
        AllFinite extrusion.convexity ∧ AllFinite extrusion.slices ∧
        AllFinite extrusion.resolution := by
  simp only [AllFinite, numbers, List.forall_mem_append, List.append_nil, and_assoc]

theorem LinearExtrusion.allFinite_update {extrusion : LinearExtrusion}
    (finite : AllFinite extrusion) : AllFinite (extrusion.update bag) := by
  obtain ⟨height, twist, scale, convexity, slices, resolution⟩ := allFinite_iff.mp finite
  exact allFinite_iff.mpr ⟨bag.allFinite_setScalar height, bag.allFinite_setScalar? twist,
    bag.allFinite_set? _ (Json.allFinite_vec2Or .vec2_one) scale,
    bag.allFinite_setNumber? convexity, bag.allFinite_setNumber? slices,
    bag.allFinite_setNumber? resolution⟩

theorem RotateExtrusion.allFinite_iff {extrusion : RotateExtrusion} :
    AllFinite extrusion ↔
      AllFinite extrusion.angle ∧ AllFinite extrusion.convexity ∧
        AllFinite extrusion.resolution := by
  simp only [AllFinite, numbers, List.forall_mem_append, and_assoc]

theorem RotateExtrusion.allFinite_update {extrusion : RotateExtrusion}
    (finite : AllFinite extrusion) : AllFinite (extrusion.update bag) := by
  obtain ⟨angle, convexity, resolution⟩ := allFinite_iff.mp finite
  exact allFinite_iff.mpr ⟨bag.allFinite_setScalar? angle, bag.allFinite_setNumber? convexity,
    bag.allFinite_setNumber? resolution⟩

/-- A field that may be missing has no numbers if what it may hold has none. -/
theorem map_nil_getD {α : Type} (field : Option α) :
    (field.map fun _ => ([] : List Binary64)).getD [] = [] := by
  cases field <;> rfl

/-- A text has a number for its size and one for its spacing. -/
theorem Lettering.allFinite_iff {lettering : Lettering} :
    AllFinite lettering ↔ AllFinite lettering.size ∧ AllFinite lettering.spacing := by
  simp only [AllFinite, numbers, List.forall_mem_append, List.append_nil, List.nil_append,
    map_nil_getD]

theorem Lettering.allFinite_update {lettering : Lettering} (finite : AllFinite lettering) :
    AllFinite (lettering.update bag) := by
  obtain ⟨size, spacing⟩ := allFinite_iff.mp finite
  exact allFinite_iff.mpr ⟨bag.allFinite_setNumber? size, bag.allFinite_setNumber? spacing⟩

theorem HeightMap.allFinite_iff {map : HeightMap} : AllFinite map ↔ AllFinite map.convexity := by
  simp only [AllFinite, numbers, List.nil_append]

theorem HeightMap.allFinite_update {map : HeightMap} (finite : AllFinite map) :
    AllFinite (map.update bag) :=
  allFinite_iff.mpr (bag.allFinite_setNumber? (allFinite_iff.mp finite))

theorem ImportedFile.allFinite_iff {source : ImportedFile} :
    AllFinite source ↔ AllFinite source.convexity := by
  simp only [AllFinite, numbers, List.nil_append, List.append_nil, map_nil_getD]

theorem ImportedFile.allFinite_update {source : ImportedFile} (finite : AllFinite source) :
    AllFinite (source.update bag) :=
  allFinite_iff.mpr (bag.allFinite_setNumber? (allFinite_iff.mp finite))

end

/-! ### Payloads -/

namespace Payload

theorem allFinite_cube_iff {size : Vec3} {center : Bool} :
    AllFinite (cube size center) ↔ AllFinite size := by
  simp only [AllFinite, HasNumbers.numbers, List.append_nil]

theorem allFinite_square_iff {size : Vec2} {center : Bool} :
    AllFinite (square size center) ↔ AllFinite size := by
  simp only [AllFinite, HasNumbers.numbers, List.append_nil]

/-- The defaults of every kind are finite. -/
theorem allFinite_default (kind : Kind) : AllFinite (default kind) := by
  have one := AllFinite.scalar_ofNat 1
  cases kind with
  | cube => exact allFinite_cube_iff.mpr one
  | cylinder =>
    exact Cylinder.allFinite_iff.mpr ⟨one, one, one, List.forall_mem_nil _⟩
  | square => exact allFinite_square_iff.mpr .vec2_one
  | translate => exact AllFinite.vec3_zero
  | rotate => exact List.forall_mem_append.mpr ⟨AllFinite.vec3_zero, List.forall_mem_nil _⟩
  | scale => exact AllFinite.vec3_one
  | linearExtrude =>
    have missing := List.forall_mem_nil fun number : Binary64 => number.isFinite
    exact LinearExtrusion.allFinite_iff.mpr ⟨one, missing, missing, missing, missing, missing⟩
  | sphere | polyhedron | circle | polygon | union | difference | intersection | rotateExtrude
  | text | surface | imported | group | raw | unknown => exact List.forall_mem_nil _

/-- A bag keeps the numbers of a payload finite. Only a node of an unknown name takes numbers over
as they are, with the whole bag. -/
theorem allFinite_update {payload : Payload} (finite : AllFinite payload) {bag : Props}
    (given : AllFinite bag) : AllFinite (payload.update bag) := by
  cases payload with
  | cube size center =>
    exact allFinite_cube_iff.mpr
      (bag.allFinite_set _ (Json.allFinite_vec3Or .vec3_zero) (allFinite_cube_iff.mp finite))
  | sphere shape => exact shape.allFinite_update bag finite
  | cylinder shape => exact shape.allFinite_update bag finite
  | polyhedron shape => exact shape.allFinite_update bag finite
  | square size center =>
    exact allFinite_square_iff.mpr
      (bag.allFinite_set _ (Json.allFinite_vec2Or .vec2_one) (allFinite_square_iff.mp finite))
  | circle shape => exact shape.allFinite_update bag finite
  | polygon shape => exact shape.allFinite_update bag finite
  | translate offset => exact bag.allFinite_set _ (Json.allFinite_vec3Or .vec3_zero) finite
  | rotate angles axis =>
    obtain ⟨finiteAngles, finiteAxis⟩ := List.forall_mem_append.mp finite
    exact List.forall_mem_append.mpr
      ⟨bag.allFinite_set _ (Json.allFinite_vec3Or .vec3_zero) finiteAngles,
        bag.allFinite_set? _ (Json.allFinite_vec3Or .vec3_zero) finiteAxis⟩
  | scale factors => exact bag.allFinite_set _ (Json.allFinite_vec3Or .vec3_one) finite
  | linearExtrude extrusion => exact extrusion.allFinite_update bag finite
  | rotateExtrude extrusion => exact extrusion.allFinite_update bag finite
  | text lettering => exact lettering.allFinite_update bag finite
  | surface map => exact map.allFinite_update bag finite
  | imported source => exact source.allFinite_update bag finite
  | unknown name props => exact given
  | union | difference | intersection | group | raw => exact List.forall_mem_nil _

theorem allFinite_settle {payload : Payload} (finite : AllFinite payload) (bag : Props) :
    AllFinite (payload.settle bag) := by
  unfold settle
  split
  case h_1 shape => exact shape.allFinite_settle bag finite
  case h_2 => exact finite

/-- A new payload has finite numbers, whatever its name is. -/
theorem allFinite_create (name : String) {bag : Props} (given : AllFinite bag) :
    AllFinite (create name bag) := by
  unfold create
  split
  case h_1 kind _ => exact allFinite_settle (allFinite_update (allFinite_default kind) given) bag
  case h_2 => exact given

end Payload

end SolidScene
