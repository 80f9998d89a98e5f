/-
This file shows that a bag says all that it has to say the first time. A payload
that was updated by a bag is not changed by it again, and neither is one that was
created from it. There is one exception: a list or an object as the top radius of a
cylinder means one radius to a new cylinder and another one to an old cylinder.

Both halves rest on the lemma that a field set twice by one bag is as if set once.
It serves for every field that is read from the bag alone, which is each but the top
radius of a cylinder: its fallback is the bottom radius, which the same bag may have
set. For an update the bottom radius is the same both times. A new cylinder,
however, is settled after the update, with a fallback of its own, and the exception
is what is left over where a value needs the fallback.
-/
import SolidScene.Proofs.Json.Numbers
import SolidScene.Proofs.Props.Setting

namespace SolidScene

/-! ### Shapes that a bag was applied to -/

section

open Props

variable (bag : Props)

/-- The fields of a sphere or a circle are each read from the bag alone, as are those of the other
shapes but one. -/
theorem Round.update_update (shape : Round) :
    (shape.update bag).update bag = shape.update bag := by
  simp only [update, setScalar?, setResolution, setNumber?, set?, set_set]

/-- The fallback of the top radius is the same both times, since the bottom radius is. -/
theorem Cylinder.update_update (shape : Cylinder) :
    (shape.update bag).update bag = shape.update bag := by
  simp only [update, setScalar, setResolution, setNumber?, set?, set_set]

theorem Polyhedron.update_update (shape : Polyhedron) :
    (shape.update bag).update bag = shape.update bag := by
  simp only [update, setConvexity, setNumber?, set?, set_set]

theorem Polygon.update_update (shape : Polygon) :
    (shape.update bag).update bag = shape.update bag := by
  simp only [update, setConvexity, setNumber?, set?, set_set]

theorem LinearExtrusion.update_update (extrusion : LinearExtrusion) :
    (extrusion.update bag).update bag = extrusion.update bag := by
  simp only [update, setScalar, setScalar?, setConvexity, setResolution, setNumber?, set?, set_set,
    setFlag_setFlag]

theorem RotateExtrusion.update_update (extrusion : RotateExtrusion) :
    (extrusion.update bag).update bag = extrusion.update bag := by
  simp only [update, setScalar?, setConvexity, setResolution, setNumber?, set?, set_set]

theorem Lettering.update_update (lettering : Lettering) :
    (lettering.update bag).update bag = lettering.update bag := by
  simp only [update, setText?, setNumber?, set?, set_set, setWord?_setWord?]

theorem HeightMap.update_update (map : HeightMap) :
    (map.update bag).update bag = map.update bag := by
  simp only [update, setConvexity, setNumber?, set?, set_set, setFlag_setFlag]

theorem ImportedFile.update_update (source : ImportedFile) :
    (source.update bag).update bag = source.update bag := by
  simp only [update, setText?, setConvexity, setNumber?, set?, set_set]

/-- An update that is made again changes nothing. -/
theorem Payload.update_update (payload : Payload) :
    (payload.update bag).update bag = payload.update bag := by
  cases payload <;>
    simp only [update, set?, set_set, setFlag_setFlag, Round.update_update,
      Cylinder.update_update, Polyhedron.update_update, Polygon.update_update,
      LinearExtrusion.update_update, RotateExtrusion.update_update, Lettering.update_update,
      HeightMap.update_update, ImportedFile.update_update]

end

/-! ### Payloads that were created from a bag -/

namespace Cylinder

variable {bag : Props}

/-- A bag without a top radius leaves the one that a new cylinder takes from its bottom, and an atom
as top radius is read alike with every fallback. -/
theorem update_settle (atom : ∀ json, bag.first? Names.top = some json → json.IsAtom)
    (shape : Cylinder) :
    ((shape.update bag).settle bag).update bag = (shape.update bag).settle bag := by
  have same (current : Scalar) (fallback : Binary64) :
      bag.set Names.top (Json.scalarOr fallback)
          (bag.set Names.top (Json.scalarOr (.ofSmall 1)) current) =
        bag.set Names.top (Json.scalarOr (.ofSmall 1)) current := by
    cases found : bag.first? Names.top with
    | none => rw [Props.set_of_none found]
    | some json =>
      rw [Props.set_of_some found, Props.set_of_some found]
      exact Json.scalarOr_of_isAtom (atom json found) _ _
  simp only [update, settle, Props.setScalar, Props.setResolution, Props.setNumber?,
    Props.set?, Props.set_set, same]

/-- A new cylinder with a list or an object as top radius is one wide at its top. -/
theorem top_settle_of_isCompound {json : Json} (found : bag.first? Names.top = some json)
    (compound : json.IsCompound) (shape : Cylinder) :
    (shape.settle bag).top = .number (.ofSmall 1) := by
  rw [settle, Props.setScalar, Props.set_of_some found, Json.scalarOr_of_isCompound compound]

/-- A list or an object has no numeric reading, so that the fallback is the top radius: one for a
new cylinder, but the bottom radius for an old one. -/
theorem update_settle_of_isCompound {json : Json} (found : bag.first? Names.top = some json)
    (compound : json.IsCompound) (shape : Cylinder) :
    ((shape.update bag).settle bag).update bag =
      { (shape.update bag).settle bag with
        top := .number ((shape.update bag).bottom.number?.getD (.ofSmall 1)) } := by
  simp only [update, settle, Props.setScalar, Props.setResolution, Props.setNumber?, Props.set?,
    Props.set_set, Props.set_of_some found, Json.scalarOr_of_isCompound compound]

end Cylinder

namespace Payload

variable {bag : Props}

theorem update_settle (payload : Payload)
    (atom : payload.kind = .cylinder →
      ∀ json, bag.first? Names.top = some json → json.IsAtom) :
    ((payload.update bag).settle bag).update bag = (payload.update bag).settle bag := by
  by_cases round : payload.kind = .cylinder
  · cases payload <;> cases round
    next shape => exact congrArg cylinder (Cylinder.update_settle (atom rfl) shape)
  · rw [settle_of_kind_ne (by rwa [kind_update]), update_update]

/-- A bag changes nothing that it was applied to before, be it as an update or on creation. Only a
cylinder that was created with a list or an object as top radius is changed by the same bag: its top
was one, and becomes as wide as its bottom, if that is a number. -/
theorem update_of_update_and_create (bag : Props) :
    (∀ payload : Payload, (payload.update bag).update bag = payload.update bag) ∧
      (∀ name : String,
        (name = "cylinder" → ∀ json, bag.value? "r2" = some json → json.IsAtom) →
          (create name bag).update bag = create name bag) ∧
      (∀ json : Json, bag.value? "r2" = some json → json.IsCompound →
        ∃ shape : Cylinder, create "cylinder" bag = cylinder shape ∧
          shape.top = .number (.ofSmall 1) ∧
          (create "cylinder" bag).update bag = cylinder
            { shape with top := .number (shape.bottom.number?.getD (.ofSmall 1)) }) := by
  refine ⟨update_update bag, fun name atom => ?_, fun json found compound => ?_⟩
  · cases known : Kind.ofName? name with
    | none => rw [create_of_unknown known, update]
    | some kind =>
      rw [create_of_known known]
      refine update_settle _ fun round json found => ?_
      obtain rfl : kind = .cylinder := by rwa [kind_default] at round
      refine atom (Kind.name_of_ofName? known).symm json ?_
      exact (Props.first?_singleton_eq_some.mp found).1
  · have first : bag.first? Names.top = some json :=
      Props.first?_singleton_eq_some.mpr ⟨found, by rintro rfl; exact compound.elim⟩
    rw [create_of_known (by decide : Kind.ofName? "cylinder" = some .cylinder)]
    exact ⟨_, rfl, Cylinder.top_settle_of_isCompound first compound _,
      congrArg cylinder (Cylinder.update_settle_of_isCompound first compound _)⟩

/-- A top radius that is an expression is kept, and one that is a list gives way to the bottom. -/
theorem update_of_update_and_create_cone :
    let cone : Props := [("r2", .string "w / 2"), ("radius", .string "w")]
    let stump : Props := [("r2", .array []), ("radius", .bool false)]
    (create "cylinder" cone).update cone = create "cylinder" cone ∧
      create "cylinder" stump = cylinder ⟨.ofNat 1, .ofNat 0, .ofNat 1, none⟩ ∧
      (create "cylinder" stump).update stump = cylinder ⟨.ofNat 1, .ofNat 0, .ofNat 0, none⟩ := by
  intro cone stump
  have made : create "cylinder" stump = cylinder ⟨.ofNat 1, .ofNat 0, .ofNat 1, none⟩ := by
    rw [create_of_known (by decide : Kind.ofName? "cylinder" = some .cylinder)]
    have height : stump.first? Names.height = none := by rfl
    have bottom : stump.first? Names.bottom = some (.bool false) := by rfl
    have top : stump.first? Names.top = some (.array []) := by rfl
    have resolution : stump.first? Names.resolution = none := by rfl
    simp only [default, update, settle, Cylinder.update, Cylinder.settle, Props.setScalar,
      Props.setResolution, Props.setNumber?, Props.set?, Props.set, height, bottom, top, resolution,
      Json.scalarOr, Json.numberOr, Json.number?, Option.getD_some, Option.getD_none,
      Bool.toNat_false, Scalar.ofNat]
  refine ⟨(update_of_update_and_create cone).2.1 "cylinder" fun _ json found => ?_, made, ?_⟩
  · cases found
    trivial
  · obtain ⟨shape, created, -, updated⟩ :=
      (update_of_update_and_create stump).2.2 (.array []) (by rfl) trivial
    obtain rfl := cylinder.inj (made.symm.trans created)
    simpa only [Scalar.ofNat, Scalar.number?, Option.getD_some] using updated

end Payload

end SolidScene
