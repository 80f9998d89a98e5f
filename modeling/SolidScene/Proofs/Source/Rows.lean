/-
This file follows lists of points and of indices from a bag to the generated
statement. A position in the list of points means the same in both, since every row
of the bag has its row in the statement, however odd it is: a point that is no list,
or too short a one, is a row of zeros, and an index list that is no list is an empty
row.

The texts that a reader should find are computed from the JSON of the bag, entry by
entry, without the points and rows of a payload in between. On the other side stands
the reader of nested lists, applied to an argument that was found by its name in the
statement. That the two agree is shown for the readings of the model, a row at a
time. It holds alike for a new shape and for an updated one, because a list in a bag
replaces the list that was held.
-/
import Mathlib.Data.List.OfFn
import SolidScene.Proofs.Props.Setting
import SolidScene.Proofs.Source.Arguments
import SolidScene.Proofs.Source.Pieces
import SolidScene.Source.Generate

namespace SolidScene

/-! ### What a bag holds -/

namespace Json

open Source

/-- The text of an entry: a finite number as its numeral, true as a one, and all else as a zero. -/
def entryText : Json → String
  | .number value => ((value.toBinary64?.filter Binary64.isFinite).map numeral).getD "0"
  | .bool true => "1"
  | _ => "0"

/-- The texts of a point: those of the first entries of a list with enough of them. -/
def pointTexts (axes : Nat) : Json → List String
  | .array items =>
    if axes ≤ items.length then (items.take axes).map entryText else List.replicate axes "0"
  | _ => List.replicate axes "0"

/-- The texts of an index list. -/
def rowTexts : Json → List String
  | .array items => items.map entryText
  | _ => []

theorem length_pointTexts (axes : Nat) (row : Json) : (row.pointTexts axes).length = axes := by
  cases row with
  | array items =>
    rw [pointTexts]
    split
    case isTrue enough => rw [List.length_map, List.length_take, Nat.min_eq_left enough]
    case isFalse => exact List.length_replicate
  | _ => exact List.length_replicate

theorem numeral_zero : numeral (.ofSmall 0) = "0" := by decide +kernel

theorem numeral_one : numeral (.ofSmall 1) = "1" := by decide +kernel

theorem numeral_numberOr (json : Json) : numeral (json.numberOr (.ofSmall 0)) = json.entryText := by
  cases json with
  | number value =>
    rw [numberOr, number?, entryText]
    cases value.toBinary64?.filter Binary64.isFinite with
    | none => exact numeral_zero
    | some number => rfl
  | bool value =>
    cases value with
    | false => exact numeral_zero
    | true =>
      rw [numberOr, number?, Option.getD_some, Bool.toNat_true, numeral_one, entryText]
  | _ => exact numeral_zero

theorem map_numeral_row (json : Json) : json.row.map numeral = json.rowTexts := by
  cases json with
  | array items =>
    rw [row, rowTexts, List.map_map]
    exact List.map_congr_left fun item _ => numeral_numberOr item
  | _ => rfl

theorem map_numeral_origin (axes : Nat) :
    (Vector.replicate axes (Binary64.ofSmall 0)).toList.map numeral = List.replicate axes "0" := by
  rw [Vector.toList_replicate, List.map_replicate, numeral_zero]

theorem map_numeral_point (axes : Nat) (json : Json) :
    (json.point axes).toList.map numeral = json.pointTexts axes := by
  cases json with
  | array items =>
    rw [point, pointTexts]
    split
    case isTrue enough =>
      rw [Vector.toList_ofFn]
      refine List.ext_getElem (by simp [enough]) fun index inside _ => ?_
      have within : index < items.length := by
        simp at inside
        omega
      simp [within, numeral_numberOr]
    case isFalse => exact map_numeral_origin axes
  | _ => exact map_numeral_origin axes

end Json

/-! ### Payloads with rows -/

namespace Payload

/-- A payload of a kind that was made from a bag, or that a bag was applied to. -/
def IsSetBy (payload : Payload) (kind : Kind) (bag : Props) : Prop :=
  payload = create kind.name bag ∨ ∃ old : Payload, old.kind = kind ∧ payload = old.update bag

/-- A polyhedron that a bag has set is an older one, updated. -/
theorem IsSetBy.exists_polyhedron {payload : Payload} {bag : Props}
    (isSet : payload.IsSetBy .polyhedron bag) :
    ∃ shape : Polyhedron, payload = polyhedron (shape.update bag) := by
  rcases isSet with rfl | ⟨old, kind, rfl⟩
  · exact ⟨_, rfl⟩
  · cases old
    case polyhedron shape => exact ⟨shape, rfl⟩
    all_goals cases kind

theorem IsSetBy.exists_polygon {payload : Payload} {bag : Props}
    (isSet : payload.IsSetBy .polygon bag) :
    ∃ shape : Polygon, payload = polygon (shape.update bag) := by
  rcases isSet with rfl | ⟨old, kind, rfl⟩
  · exact ⟨_, rfl⟩
  · cases old
    case polygon shape => exact ⟨shape, rfl⟩
    all_goals cases kind

end Payload

namespace Source

/-- The arguments of the statement of a polyhedron. -/
def polyhedronArguments (shape : Polyhedron) : List String :=
  [argument "points" (points shape.points), argument "faces" (rows shape.faces)] ++
    optional "convexity" numeral shape.convexity

/-- The arguments of the statement of a polygon. -/
def polygonArguments (shape : Polygon) : List String :=
  argument "points" (points shape.points) ::
    optional "paths" rows (shape.paths.filter fun paths => !paths.isEmpty) ++
    optional "convexity" numeral shape.convexity

/-- The arguments of a polyhedron are found in its statement, whatever its indent and its children
are. -/
theorem arguments?_polyhedron (shape : Polyhedron) (children : List Solid) (indent : String) :
    arguments? "polyhedron" ((Solid.node (.polyhedron shape) children).source indent) =
      some (polyhedronArguments shape) := by
  refine arguments?_call (List.forall_mem_append.mpr ⟨?_, ?_⟩) "polyhedron"
  · simp only [List.forall_mem_cons]
    exact ⟨(isPiece_rows _).argument (by decide) (by decide),
      (isPiece_rows _).argument (by decide) (by decide), List.forall_mem_nil _⟩
  · exact isPiece_of_mem_optional isPiece_numeral (by decide) (by decide) _

theorem arguments?_polygon (shape : Polygon) (children : List Solid) (indent : String) :
    arguments? "polygon" ((Solid.node (.polygon shape) children).source indent) =
      some (polygonArguments shape) := by
  refine arguments?_call (List.forall_mem_append.mpr ⟨List.forall_mem_cons.mpr ⟨?_, ?_⟩, ?_⟩)
    "polygon"
  · exact (isPiece_rows _).argument (by decide) (by decide)
  · exact isPiece_of_mem_optional isPiece_rows (by decide) (by decide) _
  · exact isPiece_of_mem_optional isPiece_numeral (by decide) (by decide) _

/-- The two lists of a polyhedron are found under their names. -/
theorem valueOf?_polyhedronArguments (shape : Polyhedron) :
    valueOf? "points" (polyhedronArguments shape) = some (points shape.points) ∧
      valueOf? "faces" (polyhedronArguments shape) = some (rows shape.faces) := by
  unfold polyhedronArguments
  refine ⟨?_, ?_⟩
  all_goals
    simp (disch := decide) only [List.cons_append, valueOf?_cons_self, valueOf?_cons_of_ne]

theorem valueOf?_polygonArguments (shape : Polygon) :
    valueOf? "points" (polygonArguments shape) = some (points shape.points) ∧
      valueOf? "paths" (polygonArguments shape) =
        (shape.paths.filter fun paths => !paths.isEmpty).map rows := by
  unfold polygonArguments
  refine ⟨?_, ?_⟩
  all_goals
    simp (disch := decide) only [List.cons_append, valueOf?_append, valueOf?_cons_self,
      valueOf?_cons_of_ne, valueOf?_optional_self, valueOf?_optional_of_ne, Option.or_none]

theorem rows?_points (axes : Nat) (items : List Json) :
    rows? (points ((Json.array items).points axes)) = some (items.map (Json.pointTexts axes)) := by
  rw [points, rows?_rows, Json.points, List.map_map, List.map_map]
  exact congrArg some (List.map_congr_left fun item _ => item.map_numeral_point axes)

theorem rows?_rows_array (items : List Json) :
    rows? (rows (Json.array items).rows) = some (items.map Json.rowTexts) := by
  rw [rows?_rows, Json.rows, List.map_map]
  exact congrArg some (List.map_congr_left fun item _ => item.map_numeral_row)

/-- A list replaces the one that a field held. -/
theorem set_array {α : Type} {bag : Props} {name : String} {items : List Json}
    (given : bag.value? name = some (.array items)) (read : Json → α) (current : α) :
    bag.set [name] read current = read (.array items) :=
  Props.set_of_some (Props.first?_singleton_eq_some.mpr ⟨given, nofun⟩) read current

/-- In the statement of a polyhedron or a polygon a reader of nested lists finds a row for every row
of the lists that the bag holds, in order, whatever is in them, and in it the numeral of every
entry that counts: of a point as many as there are axes, of an index list all. Paths are left out
if there are none. -/
theorem rows_read_back (bag : Props) (payload : Payload) (children : List Solid)
    (indent : String) :
    (payload.IsSetBy .polyhedron bag → ∃ arguments,
      arguments? "polyhedron" ((Solid.node payload children).source indent) = some arguments ∧
      (∀ points, bag.value? "points" = some (.array points) →
        (valueOf? "points" arguments).bind rows? = some (points.map (Json.pointTexts 3))) ∧
      ∀ faces, bag.value? "faces" = some (.array faces) →
        (valueOf? "faces" arguments).bind rows? = some (faces.map Json.rowTexts)) ∧
    (payload.IsSetBy .polygon bag → ∃ arguments,
      arguments? "polygon" ((Solid.node payload children).source indent) = some arguments ∧
      (∀ points, bag.value? "points" = some (.array points) →
        (valueOf? "points" arguments).bind rows? = some (points.map (Json.pointTexts 2))) ∧
      ∀ paths, bag.value? "paths" = some (.array paths) →
        if paths = [] then valueOf? "paths" arguments = none
        else (valueOf? "paths" arguments).bind rows? = some (paths.map Json.rowTexts)) ∧
    ∀ (axes : Nat) (row : Json), (row.pointTexts axes).length = axes := by
  refine ⟨fun isSet => ?_, fun isSet => ?_, Json.length_pointTexts⟩
  · obtain ⟨shape, rfl⟩ := isSet.exists_polyhedron
    obtain ⟨pointsAt, facesAt⟩ := valueOf?_polyhedronArguments (shape.update bag)
    refine ⟨_, arguments?_polyhedron (shape.update bag) children indent, fun points given => ?_,
      fun faces given => ?_⟩
    · rw [pointsAt, Option.bind_some, Polyhedron.update, set_array given, rows?_points]
    · rw [facesAt, Option.bind_some, Polyhedron.update, set_array given, rows?_rows_array]
  · obtain ⟨shape, rfl⟩ := isSet.exists_polygon
    obtain ⟨pointsAt, pathsAt⟩ := valueOf?_polygonArguments (shape.update bag)
    refine ⟨_, arguments?_polygon (shape.update bag) children indent, fun points given => ?_,
      fun paths given => ?_⟩
    · rw [pointsAt, Option.bind_some, Polygon.update, set_array given, rows?_points]
    · have held : (shape.update bag).paths = some (Json.array paths).rows := set_array given _ _
      rw [pathsAt, held]
      split
      case isTrue empty =>
        subst empty
        rfl
      case isFalse filled =>
        have kept : (!(Json.array paths).rows.isEmpty) = true := by
          simpa [Json.rows] using filled
        rw [Option.filter_some, if_pos kept, Option.map_some, Option.bind_some, rows?_rows_array]

/-- A point of a truth value and a null, one that is no list, and an index list that is none; and an
outline that was changed to have no paths. -/
theorem rows_read_back_odd :
    let one : Json := .number (.whole 1)
    let bag : Props := [("faces", .array [.array [.bool false, one], .null]),
      ("paths", .array []),
      ("points", .array [.array [one, .bool true, .null, one], .string "origin"])]
    let outline : Payload := .polygon ⟨[], some [[.one]], none⟩
    (∃ arguments,
      arguments? "polyhedron" ((Solid.node (.create "polyhedron" bag) []).source "  ") =
        some arguments ∧
      (valueOf? "points" arguments).bind rows? = some [["1", "1", "0"], ["0", "0", "0"]] ∧
      (valueOf? "faces" arguments).bind rows? = some [["0", "1"], []]) ∧
    ∃ arguments,
      arguments? "polygon" ((Solid.node (outline.update bag) []).source "") = some arguments ∧
      (valueOf? "points" arguments).bind rows? = some [["1", "1"], ["0", "0"]] ∧
      valueOf? "paths" arguments = none := by
  intro one bag outline
  obtain ⟨solid, -, -⟩ := rows_read_back bag (.create "polyhedron" bag) [] "  "
  obtain ⟨-, flat, -⟩ := rows_read_back bag (outline.update bag) [] ""
  obtain ⟨arguments, found, points, faces⟩ := solid (Or.inl rfl)
  obtain ⟨others, otherFound, otherPoints, paths⟩ := flat (Or.inr ⟨outline, rfl, rfl⟩)
  refine ⟨⟨arguments, found, (points _ rfl).trans ?_, (faces _ rfl).trans ?_⟩,
    others, otherFound, (otherPoints _ rfl).trans ?_, paths [] rfl⟩
  · decide +kernel
  · decide +kernel
  · decide +kernel

end Source

end SolidScene
