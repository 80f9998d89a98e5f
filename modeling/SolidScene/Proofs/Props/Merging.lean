/-
This file shows when two updates can be made in either order, or in one. Bags that
have no name in common can be put together in one bag, and where no field has values
in both, each field is read from the bag that has a value for it, whichever comes
first. One field reads more than its own value: where the top radius of a cylinder
is a list or an object, it becomes as wide as the bottom is at that time, so it
matters whether the bottom was set before.

Bags that are apart may still name one field twice, since a field has several names;
that is why both conditions are needed. The core is the lemma about one field that
is set by one bag and then by the other: it ends as the bag of both sets it. Every
shape takes it for each of its fields, and the order of the two updates does not
matter then because it does not matter for putting bags together.
-/
import SolidScene.Proofs.Json.Numbers
import SolidScene.Proofs.Props.Naming

namespace SolidScene

namespace Props

/-! ### Two bags in one -/

/-- The entries of two bags in one bag. Under a name that both have, the value of the first bag
counts. -/
def merged (bag other : Props) : Props :=
  bag.foldr (fun entry held => insert entry.1 entry.2 held) other

/-- No name is in both bags. -/
def IsApartFrom (bag other : Props) : Prop :=
  ∀ name, bag.value? name = none ∨ other.value? name = none

/-- A bag has a value that is not null under one of several names. -/
def Sets (bag : Props) (names : List String) : Prop :=
  ∃ name ∈ names, ∃ json, bag.value? name = some json ∧ json ≠ .null

theorem IsApartFrom.symm {bag other : Props} (apart : bag.IsApartFrom other) :
    other.IsApartFrom bag := fun name => (apart name).symm

/-- A name has the value of the first bag that has one for it. -/
theorem value?_merged (bag other : Props) (name : String) :
    (bag.merged other).value? name = (bag.value? name).or (other.value? name) := by
  induction bag with
  | nil => rfl
  | cons entry rest inductionHypothesis =>
    obtain ⟨first, json⟩ := entry
    have step : merged ((first, json) :: rest) other = insert first json (merged rest other) := rfl
    rw [step]
    by_cases same : name = first
    · rw [same, value?_insert_self, value?, List.lookup_cons_self, Option.some_or]
    · have missed : (name == first) = false := by simpa using same
      rw [value?_insert_of_ne same, inductionHypothesis]
      simp only [value?, List.lookup_cons, missed]

section

variable {bag other : Props} {names : List String}

theorem first?_cons (bag : Props) (name : String) (names : List String) :
    bag.first? (name :: names) = (bag.first? [name]).or (bag.first? names) := by
  simp only [first?, List.findSome?_cons, List.findSome?_nil]
  split
  · rfl
  · rfl

/-- A field is read from nothing but the values under its names. -/
theorem first?_congr (same : ∀ name ∈ names, bag.first? [name] = other.first? [name]) :
    bag.first? names = other.first? names := by
  induction names with
  | nil => rfl
  | cons name rest inductionHypothesis =>
    rw [List.forall_mem_cons] at same
    rw [first?_cons, first?_cons other, same.1, inductionHypothesis same.2]

/-- A field is read from a bag unless the bag sets none of its names. -/
theorem first?_eq_none_iff : bag.first? names = none ↔ ¬ bag.Sets names := by
  rw [first?, List.findSome?_eq_none_iff, Sets]
  push Not
  refine forall₂_congr fun name _ => ?_
  cases bag.value? name with
  | none => simp
  | some json => cases json <;> simp

/-- A field without a value in the second bag is read from the first one. A null in the second bag
hides nothing, since the name is not in the first one. -/
theorem first?_merged_of_not_sets (apart : bag.IsApartFrom other) (missed : ¬ other.Sets names) :
    (bag.merged other).first? names = bag.first? names := by
  refine first?_congr fun name member => ?_
  rw [first?_singleton, first?_singleton, value?_merged]
  rcases apart name with absent | absent
  · rw [absent, Option.none_or, ← first?_singleton, Option.filter_none, first?_eq_none_iff]
    rintro ⟨found, inside, json, value, some⟩
    exact missed ⟨found, List.mem_singleton.mp inside ▸ member, json, value, some⟩
  · rw [absent, Option.or_none]

/-- Bags that are apart can be put together in either order. -/
theorem value?_merged_comm (apart : bag.IsApartFrom other) (name : String) :
    (bag.merged other).value? name = (other.merged bag).value? name := by
  rw [value?_merged, value?_merged]
  rcases apart name with absent | absent
  · rw [absent, Option.none_or, Option.or_none]
  · rw [absent, Option.none_or, Option.or_none]

/-- A field is read alike from both bags together in either order. -/
theorem first?_merged_comm (apart : bag.IsApartFrom other) (names : List String) :
    (bag.merged other).first? names = (other.merged bag).first? names := by
  simp only [first?, value?_merged_comm apart]

/-! ### One field, changed twice -/

variable {α : Type}

/-- A field that has no values in both bags can be changed by both at once, also where a value
without a meaning for the field reads as what is there. -/
theorem set_merged_of_read (apart : bag.IsApartFrom other)
    (once : ¬ (bag.Sets names ∧ other.Sets names)) (read : α → Json → α) (current : α) :
    other.set names (read (bag.set names (read current) current))
        (bag.set names (read current) current) =
      (bag.merged other).set names (read current) current := by
  rcases not_and_or.mp once with missed | missed
  · have same := first?_merged_of_not_sets apart.symm missed
    rw [← first?_merged_comm apart] at same
    rw [set_of_none (first?_eq_none_iff.mpr missed)]
    simp only [set, same]
  · have same := first?_merged_of_not_sets apart missed
    rw [set_of_none (first?_eq_none_iff.mpr missed)]
    simp only [set, same]

/-- A field that at most one of two bags sets is set by both at once. -/
theorem set_merged (apart : bag.IsApartFrom other) (once : ¬ (bag.Sets names ∧ other.Sets names))
    (read : Json → α) (current : α) :
    other.set names read (bag.set names read current) =
      (bag.merged other).set names read current :=
  set_merged_of_read apart once (fun _ => read) current

theorem setFlag_merged {name : String} (apart : bag.IsApartFrom other)
    (once : ¬ (bag.Sets [name] ∧ other.Sets [name])) (current : Bool) :
    other.setFlag name (bag.setFlag name current) = (bag.merged other).setFlag name current := by
  simp only [setFlag_eq_set]
  exact set_merged_of_read apart once (fun current json => json.bool?.getD current) current

theorem setWord?_merged [Keyword α] {name : String} (apart : bag.IsApartFrom other)
    (once : ¬ (bag.Sets [name] ∧ other.Sets [name])) (current : Option α) :
    other.setWord? name (bag.setWord? name current) =
      (bag.merged other).setWord? name current := by
  simp only [setWord?_eq_set]
  exact set_merged_of_read apart once
    (fun current json => (json.string?.bind Keyword.ofWord?).or current) current

end

end Props

/-! ### Shapes, changed twice -/

/-- Of no field two bags have both a value. -/
def Props.SharesNoneOf (bag other : Props) (data : List Datum) : Prop :=
  ∀ datum ∈ data, ¬ (bag.Sets datum.names ∧ other.Sets datum.names)

section

open Props

variable {bag other : Props} (apart : bag.IsApartFrom other)

include apart

theorem Round.update_merged {shape : Round} (once : bag.SharesNoneOf other shape.data) :
    (shape.update bag).update other = shape.update (bag.merged other) := by
  simp only [SharesNoneOf, data, List.forall_mem_cons] at once
  simp only [update, setScalar?, setResolution, setNumber?, set?, set_merged apart, once,
    not_false_eq_true]

/-- The top radius is read with the bottom radius at hand, which must be that of both bags unless
the value needs no fallback. -/
theorem Cylinder.update_merged {shape : Cylinder} (once : bag.SharesNoneOf other shape.data)
    (atom : other.Sets Names.bottom →
      ∀ json, bag.first? Names.top = some json → json.IsAtom) :
    (shape.update bag).update other = shape.update (bag.merged other) := by
  simp only [SharesNoneOf, data, List.forall_mem_cons] at once
  obtain ⟨height, bottom, top, resolution, -⟩ := once
  have bottoms := set_merged apart bottom (Json.scalarOr (.ofSmall 1)) shape.bottom
  have tops : other.set Names.top
        (Json.scalarOr ((other.setScalar Names.bottom 1
          (bag.setScalar Names.bottom 1 shape.bottom)).number?.getD (.ofSmall 1)))
        (bag.set Names.top
          (Json.scalarOr ((bag.setScalar Names.bottom 1 shape.bottom).number?.getD (.ofSmall 1)))
          shape.top) =
      (bag.merged other).set Names.top
        (Json.scalarOr (((bag.merged other).setScalar Names.bottom 1 shape.bottom).number?.getD
          (.ofSmall 1))) shape.top := by
    rw [← set_merged apart top]
    simp only [setScalar, ← bottoms]
    refine congrArg (other.set Names.top _) ?_
    by_cases widened : other.Sets Names.bottom
    · cases found : bag.first? Names.top with
      | none => rw [set_of_none found, set_of_none found]
      | some json =>
        rw [set_of_some found, set_of_some found]
        exact Json.scalarOr_of_isAtom (atom widened json found) _ _
    · rw [set_of_none (first?_eq_none_iff.mpr widened)]
  simp only [update, tops]
  simp only [setScalar, setResolution, setNumber?, set?, set_merged apart, height, bottom,
    resolution, not_false_eq_true]

theorem Polyhedron.update_merged {shape : Polyhedron}
    (once : bag.SharesNoneOf other shape.data) :
    (shape.update bag).update other = shape.update (bag.merged other) := by
  simp only [SharesNoneOf, data, List.forall_mem_cons] at once
  simp only [update, setConvexity, setNumber?, set?, set_merged apart, once, not_false_eq_true]

theorem Polygon.update_merged {shape : Polygon} (once : bag.SharesNoneOf other shape.data) :
    (shape.update bag).update other = shape.update (bag.merged other) := by
  simp only [SharesNoneOf, data, List.forall_mem_cons] at once
  simp only [update, setConvexity, setNumber?, set?, set_merged apart, once, not_false_eq_true]

theorem LinearExtrusion.update_merged {extrusion : LinearExtrusion}
    (once : bag.SharesNoneOf other extrusion.data) :
    (extrusion.update bag).update other = extrusion.update (bag.merged other) := by
  simp only [SharesNoneOf, data, List.forall_mem_cons] at once
  simp only [update, setScalar, setScalar?, setConvexity, setResolution, setNumber?, set?,
    set_merged apart, setFlag_merged apart, once, not_false_eq_true]

theorem RotateExtrusion.update_merged {extrusion : RotateExtrusion}
    (once : bag.SharesNoneOf other extrusion.data) :
    (extrusion.update bag).update other = extrusion.update (bag.merged other) := by
  simp only [SharesNoneOf, data, List.forall_mem_cons] at once
  simp only [update, setScalar?, setConvexity, setResolution, setNumber?, set?, set_merged apart,
    once, not_false_eq_true]

theorem Lettering.update_merged {lettering : Lettering}
    (once : bag.SharesNoneOf other lettering.data) :
    (lettering.update bag).update other = lettering.update (bag.merged other) := by
  simp only [SharesNoneOf, data, List.forall_mem_cons] at once
  simp only [update, setText?, setNumber?, set?, set_merged apart, setWord?_merged apart, once,
    not_false_eq_true]

theorem HeightMap.update_merged {map : HeightMap} (once : bag.SharesNoneOf other map.data) :
    (map.update bag).update other = map.update (bag.merged other) := by
  simp only [SharesNoneOf, data, List.forall_mem_cons] at once
  simp only [update, setConvexity, setNumber?, set?, set_merged apart, setFlag_merged apart, once,
    not_false_eq_true]

theorem ImportedFile.update_merged {source : ImportedFile}
    (once : bag.SharesNoneOf other source.data) :
    (source.update bag).update other = source.update (bag.merged other) := by
  simp only [SharesNoneOf, data, List.forall_mem_cons] at once
  simp only [update, setText?, setConvexity, setNumber?, set?, set_merged apart, once,
    not_false_eq_true]

/-- A payload of a known kind is updated by two bags as by both in one, if no field is set twice and
no top radius falls back to a bottom radius that is set after it. -/
theorem Payload.update_merged {payload : Payload} (known : payload.kind ≠ .unknown)
    (once : bag.SharesNoneOf other payload.data)
    (atom : payload.kind = .cylinder → other.Sets Names.bottom →
      ∀ json, bag.first? Names.top = some json → json.IsAtom) :
    (payload.update bag).update other = payload.update (bag.merged other) := by
  cases payload
  case unknown => exact absurd rfl known
  case sphere | circle => exact congrArg _ (Round.update_merged apart once)
  case cylinder => exact congrArg _ (Cylinder.update_merged apart once (atom rfl))
  case polyhedron => exact congrArg _ (Polyhedron.update_merged apart once)
  case polygon => exact congrArg _ (Polygon.update_merged apart once)
  case linearExtrude => exact congrArg _ (LinearExtrusion.update_merged apart once)
  case rotateExtrude => exact congrArg _ (RotateExtrusion.update_merged apart once)
  case text => exact congrArg _ (Lettering.update_merged apart once)
  case surface => exact congrArg _ (HeightMap.update_merged apart once)
  case imported => exact congrArg _ (ImportedFile.update_merged apart once)
  all_goals
    simp only [SharesNoneOf, data, List.forall_mem_cons] at once
    simp only [update, set?, set_merged apart, setFlag_merged apart, once, not_false_eq_true]

end

namespace Payload

/-- Two bags without a common name, and without a field that both have a value for, change a payload
of a known kind alike in either order, and as both in one bag do. To a cylinder this applies unless
one bag has a value for the bottom radius and the other one a list or an object as top radius. -/
theorem update_in_any_order {bag other : Props} {payload : Payload}
    (known : payload.kind ≠ .unknown) (apart : bag.IsApartFrom other)
    (once : ∀ names ∈ payload.kind.fields, ¬ (bag.Sets names ∧ other.Sets names))
    (atoms : payload.kind = .cylinder →
      (other.Sets Names.bottom → ∀ json, bag.value? "r2" = some json → json.IsAtom) ∧
        (bag.Sets Names.bottom → ∀ json, other.value? "r2" = some json → json.IsAtom)) :
    (payload.update bag).update other = (payload.update other).update bag ∧
      (payload.update other).update bag = payload.update (bag.merged other) := by
  have value {held : Props} {json : Json} (found : held.first? Names.top = some json) :
      held.value? "r2" = some json := (Props.first?_singleton_eq_some.mp found).1
  have forth : (payload.update bag).update other = payload.update (bag.merged other) :=
    update_merged apart known (fun _ mem => once _ (names_mem_fields mem))
      fun round widened json found => (atoms round).1 widened json (value found)
  have back : (payload.update other).update bag = payload.update (other.merged bag) :=
    update_merged apart.symm known (fun _ mem => mt And.symm (once _ (names_mem_fields mem)))
      fun round widened json found => (atoms round).2 widened json (value found)
  have same : payload.update (bag.merged other) = payload.update (other.merged bag) :=
    update_congr known fun datum _ => Props.first?_merged_comm apart datum.names
  exact ⟨forth.trans (same.trans back.symm), back.trans same.symm⟩

/-- The bottom of a cylinder in one bag and an expression for its top in the other; a null for the
resolution hides no value of the other bag. -/
theorem update_in_any_order_cone :
    let bag : Props := [("$fn", .null), ("r", .string "w")]
    let other : Props := [("fn", .bool true), ("h", .string "u"), ("r2", .string "w / 2")]
    let shape : Cylinder := ⟨.ofNat 1, .ofNat 2, .ofNat 3, none⟩
    ((cylinder shape).update bag).update other = ((cylinder shape).update other).update bag ∧
      ((cylinder shape).update other).update bag =
        cylinder ⟨.expression "u", .expression "w", .expression "w / 2", some (.ofSmall 1)⟩ := by
  intro bag other shape
  have apart : bag.IsApartFrom other := by
    intro name
    by_cases first : name = "$fn"
    · exact Or.inr (first ▸ rfl)
    · by_cases second : name = "r"
      · exact Or.inr (second ▸ rfl)
      · have missed : (name == "$fn") = false ∧ (name == "r") = false := by simp [first, second]
        exact Or.inl (by simp [bag, Props.value?, List.lookup_cons, missed])
  have once : ∀ names ∈ Kind.fields .cylinder, ¬ (bag.Sets names ∧ other.Sets names) := by
    have height : bag.first? Names.height = none := by rfl
    have bottom : other.first? Names.bottom = none := by rfl
    have top : bag.first? Names.top = none := by rfl
    have resolution : bag.first? Names.resolution = none := by rfl
    rw [Props.first?_eq_none_iff] at height bottom top resolution
    simp [Kind.fields, default, data, Cylinder.data, height, bottom, top, resolution]
  have atoms : (cylinder shape).kind = .cylinder →
      (other.Sets Names.bottom → ∀ json, bag.value? "r2" = some json → json.IsAtom) ∧
        (bag.Sets Names.bottom → ∀ json, other.value? "r2" = some json → json.IsAtom) := by
    refine fun _ => ⟨fun _ json found => ?_, fun _ json found => ?_⟩
    · cases found
    · cases found
      trivial
  have known : (cylinder shape).kind ≠ .unknown := by decide
  obtain ⟨commute, both⟩ := update_in_any_order known apart once atoms
  refine ⟨commute, both.trans ?_⟩
  have height : (bag.merged other).first? Names.height = some (.string "u") := by rfl
  have bottom : (bag.merged other).first? Names.bottom = some (.string "w") := by rfl
  have top : (bag.merged other).first? Names.top = some (.string "w / 2") := by rfl
  have resolution : (bag.merged other).first? Names.resolution = some (.bool true) := by rfl
  simp only [update, Cylinder.update, Props.setScalar, Props.setResolution, Props.setNumber?,
    Props.set?, Props.set, height, bottom, top, resolution, Json.scalarOr, Json.numberOr,
    Json.number?, Option.getD_some, Bool.toNat_true]

end Payload

end SolidScene
