/-
This file says what a bag does to one field. It depends on nothing in the bag but
the first value under the names of the field, a field without such a value stays as
it is, and doing it again changes nothing. Truth values and words are read under one
name and not past a null, but a null is neither, so the same holds for them. What no
bag changes is the kind of a payload.

Truth values and words have setters of their own in the model, because for them a
value that means nothing keeps what is there, where other fields take a fallback.
Here they are brought into the form of the general setter, with what is there as the
fallback of the reading; from then on there is one way to set a field. The last part
says how a payload is created: from the default of its kind, which the bag updates
and settles.
-/
import SolidScene.Props.Update

namespace SolidScene

namespace Props

/-! ### The first value -/

/-- What is found first is never a null. -/
theorem ne_null_of_first? {bag : Props} {names : List String} {json : Json}
    (found : bag.first? names = some json) : json ≠ .null := by
  obtain ⟨name, -, value⟩ := List.exists_of_findSome?_eq_some found
  rintro rfl
  split at value
  · cases value
  · next other => exact other value

/-- Under one name the first value is the value, unless it is null. -/
theorem first?_singleton (bag : Props) (name : String) :
    bag.first? [name] = (bag.value? name).filter fun json => !(json matches .null) := by
  rw [first?, List.findSome?_singleton]
  cases bag.value? name with
  | none => rfl
  | some json => cases json <;> rfl

/-- A field of one name is read from the value of this name, which must not be null. -/
theorem first?_singleton_eq_some {bag : Props} {name : String} {json : Json} :
    bag.first? [name] = some json ↔ bag.value? name = some json ∧ json ≠ .null := by
  rw [first?_singleton, Option.filter_eq_some_iff]
  refine and_congr_right fun _ => ?_
  cases json <;> simp

/-! ### One field -/

section

variable {α : Type} {bag : Props} {names : List String}

/-- A field without a value in the bag stays as it is. -/
theorem set_of_none (missing : bag.first? names = none) (read : Json → α) (current : α) :
    bag.set names read current = current := by
  rw [set, missing]

/-- A field with a value in the bag is what this value is read as. -/
theorem set_of_some {json : Json} (found : bag.first? names = some json) (read : Json → α)
    (current : α) : bag.set names read current = read json := by
  rw [set, found]

/-- A field that is set again by the same bag is not changed by that. -/
@[simp] theorem set_set (bag : Props) (names : List String) (read : Json → α) (current : α) :
    bag.set names read (bag.set names read current) = bag.set names read current := by
  cases found : bag.first? names with
  | none => rw [set_of_none found, set_of_none found]
  | some json => rw [set_of_some found, set_of_some found]

/-- A truth value is set like other fields, where whatever is no truth value reads as the value
that is there. -/
theorem setFlag_eq_set (bag : Props) (name : String) (current : Bool) :
    bag.setFlag name current =
      bag.set [name] (fun json => json.bool?.getD current) current := by
  rw [setFlag, set, first?_singleton]
  cases bag.value? name with
  | none => rfl
  | some json => cases json <;> rfl

theorem setFlag_setFlag (bag : Props) (name : String) (current : Bool) :
    bag.setFlag name (bag.setFlag name current) = bag.setFlag name current := by
  unfold setFlag
  cases (bag.value? name).bind Json.bool? <;> rfl

variable [Keyword α]

/-- A keyword is set like other fields, where whatever is no keyword of its type reads as the one
that is there. -/
theorem setWord?_eq_set (bag : Props) (name : String) (current : Option α) :
    bag.setWord? name current =
      bag.set [name] (fun json => (json.string?.bind Keyword.ofWord?).or current) current := by
  rw [setWord?, set, first?_singleton]
  cases bag.value? name with
  | none => rfl
  | some json => cases json <;> rfl

theorem setWord?_setWord? (bag : Props) (name : String) (current : Option α) :
    bag.setWord? name (bag.setWord? name current) = bag.setWord? name current := by
  unfold setWord?
  cases ((bag.value? name).bind Json.string?).bind (Keyword.ofWord? (α := α)) <;> rfl

end

end Props

/-! ### Kinds -/

/-- A kind that is found by a name has this name. -/
theorem Kind.name_of_ofName? {name : String} {kind : Kind} (known : Kind.ofName? name = some kind) :
    kind.name = name := by
  simpa using List.find?_some known

/-- Not even the name of the kind for unknown names stands for it. -/
theorem Kind.ne_unknown_of_ofName? {name : String} {kind : Kind}
    (known : Kind.ofName? name = some kind) : kind ≠ .unknown := by
  rintro rfl
  exact absurd (List.mem_of_find?_eq_some known) (by decide)

namespace Payload

/-- A bag does not change the kind of a payload. -/
@[simp] theorem kind_update (bag : Props) (payload : Payload) :
    (payload.update bag).kind = payload.kind := by
  cases payload <;> rfl

@[simp] theorem kind_settle (bag : Props) (payload : Payload) :
    (payload.settle bag).kind = payload.kind := by
  cases payload <;> rfl

@[simp] theorem kind_default (kind : Kind) : (default kind).kind = kind := by
  cases kind <;> rfl

/-- Only cylinders are settled. -/
theorem settle_of_kind_ne {payload : Payload} (other : payload.kind ≠ .cylinder) (bag : Props) :
    payload.settle bag = payload := by
  cases payload
  case cylinder => exact absurd rfl other
  all_goals rfl

/-- A node of a known kind is its default, updated and settled by the bag. -/
theorem create_of_known {name : String} {kind : Kind} (known : Kind.ofName? name = some kind)
    (bag : Props) : create name bag = ((default kind).update bag).settle bag := by
  rw [create, known]

/-- A node of an unknown name keeps the name and the whole bag. -/
theorem create_of_unknown {name : String} (unknown : Kind.ofName? name = none) (bag : Props) :
    create name bag = .unknown name bag := by
  rw [create, unknown]

end Payload

end SolidScene
