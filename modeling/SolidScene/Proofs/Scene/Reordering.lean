/-
This file shows that edits of different cells of a scene can be made in any order. A
cell is one list or the payload of one node. An edit looks at its cell and at which
handles are live, and it changes its cell only. So an edit of another cell before it
changes neither whether it is refused nor what it does, not even if the node whose
payload the one changes stands in the list that the other changes.

Operations with a cell neither add nodes nor free any, so the same handles are live
after them; and what such an operation does to its cell is a function that does not
depend on the rest of the scene. These two facts make two independent operations
commute, with their faults. A batch of pairwise independent operations is then
brought into any other order by exchanging neighbours, and each of them still ends
as it would have ended alone.
-/
import SolidScene.Proofs.Scene.Alteration
import SolidScene.Proofs.Scene.Refusal
import SolidScene.Scene.Report

namespace SolidScene

/-- What an edit can change by itself: a list, or the payload of a node. -/
inductive Cell where
  /-- The list of a site. -/
  | list (site : Site)
  /-- The payload of a node. -/
  | payload (handle : Handle)
deriving DecidableEq

/-- What can be done to a cell. -/
def Cell.Change : Cell → Type
  | list _ => List Handle → List Handle
  | payload _ => Payload → Payload

namespace Scene

variable {scene other : Scene}

/-! ### Cells of a scene -/

/-- The scene with one cell changed. -/
def alter (scene : Scene) : (cell : Cell) → cell.Change → Scene
  | .list site, change => scene.alterList site change
  | .payload handle, change => scene.alterPayload handle change

@[simp] theorem contains_alter (scene : Scene) (cell : Cell) (change : cell.Change)
    (handle : Handle) : (scene.alter cell change).contains handle = scene.contains handle := by
  cases cell with
  | list site => exact contains_alterList scene site change handle
  | payload altered => exact contains_alterPayload scene altered change handle

/-- Changes of different cells pass each other. -/
theorem alter_comm {first second : Cell} (different : first ≠ second) (change : first.Change)
    (more : second.Change) :
    (scene.alter first change).alter second more =
      (scene.alter second more).alter first change := by
  cases first with
  | list site =>
    cases second with
    | list otherSite =>
      exact alterList_comm (fun same => different (congrArg Cell.list same)) change more
    | payload handle => exact (alterList_alterPayload_comm site handle change more).symm
  | payload handle =>
    cases second with
    | list site => exact alterList_alterPayload_comm site handle more change
    | payload otherHandle =>
      exact alterPayload_comm (fun same => different (congrArg Cell.payload same)) change more

/-- Which handle is the first dead one depends on nothing but on which are live. -/
theorem firstDead?_congr (same : ∀ handle, other.contains handle = scene.contains handle)
    (handles : List Handle) : other.firstDead? handles = scene.firstDead? handles := by
  simp only [firstDead?, same]

end Scene

namespace Edit

variable {scene : Scene} {site : Site} {child : Handle}

/-! ### What an edit does to its cell -/

/-- An edit that heeds its handles changes the scene or leaves it alone, as its fault tells. -/
theorem Heeds.after_eq_ite {edit : Edit Unit} {refusal : Option Fault} {altered : Scene}
    (heeds : edit.Heeds scene refusal)
    (succeeds : edit.fault? scene = none → edit.after scene = altered) :
    edit.after scene = if edit.fault? scene = none then altered else scene := by
  split
  case isTrue done => exact succeeds done
  case isFalse fails => exact heeds.after_eq fails

/-- An edit of a list changes the list, if it is there. -/
theorem after_relist_eq (scene : Scene) (site : Site) (change : List Handle → List Handle) :
    (relist site change).after scene = scene.alterList site change := by
  rcases scene.list?_cases site with ⟨list, found⟩ | ⟨parent, rfl, dead⟩
  · rw [after_of_ok (run_relist found change), Scene.alterList_of_list? found]
  · rw [after_of_error (run_relist_of_dead dead change), Scene.alterList,
      Scene.alterNode_of_dead dead]

theorem after_ensureLive_relist_eq {change : List Handle → List Handle}
    (succeeds : (ensureLive child >>= fun _ => relist site change).fault? scene = none) :
    (ensureLive child >>= fun _ => relist site change).after scene =
      scene.alterList site change := by
  by_cases live : scene.contains child
  · rw [after_ensureLive_relist_of_live live, after_relist_eq]
  · rw [fault?, run_ensureLive_relist_of_dead live] at succeeds
    exact absurd succeeds (Option.some_ne_none _)

/-- An update changes the payload of its node, if it is live. -/
theorem after_update_eq (scene : Scene) (handle : Handle) (bag : Props) :
    (update handle bag).after scene = scene.alterPayload handle (·.update bag) := by
  by_cases live : scene.contains handle
  · obtain ⟨⟨payload, children⟩, found⟩ := Arena.contains_iff.mp live
    rw [after_of_ok (run_update found bag), Scene.alterPayload, Scene.alterNode_of_get? found]
  · rw [after_of_error (run_update_of_dead live bag), Scene.alterPayload,
      Scene.alterNode_of_dead live]

end Edit

namespace Operation

variable {scene : Scene} {first second operation : Operation}

/-- The cell of a scene that an operation changes, for those that change one cell only. -/
def cell? : Operation → Option Cell
  | update handle _ => some (.payload handle)
  | append site _ => some (.list site)
  | insertBefore site _ _ => some (.list site)
  | remove site _ => some (.list site)
  | clear => some (.list .top)
  | create .. => none
  | insert _ => none
  | createText _ => none
  | clone .. => none
  | prune => none

/-- Two operations are independent if each changes one cell, and not the same one. -/
def IsIndependentOf (first second : Operation) : Prop :=
  ∃ cell other, first.cell? = some cell ∧ second.cell? = some other ∧ cell ≠ other

theorem IsIndependentOf.symm (independent : first.IsIndependentOf second) :
    second.IsIndependentOf first := by
  obtain ⟨cell, other, touches, otherTouches, different⟩ := independent
  exact ⟨other, cell, otherTouches, touches, different.symm⟩

/-! ### One operation -/

/-- An operation with a cell is refused for the first dead handle that it needs. -/
theorem fault?_of_cell? {cell : Cell} (touches : operation.cell? = some cell) (scene : Scene) :
    operation.fault? scene = (scene.firstDead? operation.needs).map .unknownNode := by
  cases operation with
  | update handle bag => exact (Edit.heeds_update scene handle bag).fault?_eq
  | append site child => exact (Edit.heeds_ensureLive_relist scene site child _).fault?_eq
  | insertBefore site child before =>
    exact (Edit.heeds_ensureLive_relist scene site child _).fault?_eq
  | remove site child => exact (Edit.heeds_relist scene site _).fault?_eq
  | clear => rfl
  | _ => cases touches

/-- An operation with a cell makes the same change of it in every scene in which it is not
refused. -/
theorem exists_change {cell : Cell} (touches : operation.cell? = some cell) :
    ∃ change : cell.Change, ∀ scene : Scene, operation.after scene =
      if operation.fault? scene = none then scene.alter cell change else scene := by
  cases operation with
  | update handle bag =>
    cases touches
    exact ⟨fun payload : Payload => payload.update bag, fun scene =>
      (Edit.heeds_update scene handle bag).after_eq_ite fun _ =>
        Edit.after_update_eq scene handle bag⟩
  | append site child =>
    cases touches
    exact ⟨fun list : List Handle => list ++ [child], fun scene =>
      (Edit.heeds_ensureLive_relist scene site child _).after_eq_ite
        Edit.after_ensureLive_relist_eq⟩
  | insertBefore site child before =>
    cases touches
    exact ⟨placeBefore child before, fun scene =>
      (Edit.heeds_ensureLive_relist scene site child _).after_eq_ite
        Edit.after_ensureLive_relist_eq⟩
  | remove site child =>
    cases touches
    exact ⟨fun list : List Handle => list.erase child, fun scene =>
      (Edit.heeds_relist scene site _).after_eq_ite fun _ =>
        Edit.after_relist_eq scene site _⟩
  | clear =>
    cases touches
    exact ⟨fun _ => [], fun scene => rfl⟩
  | _ => cases touches

theorem contains_after {cell : Cell} (touches : operation.cell? = some cell) (scene : Scene)
    (handle : Handle) : (operation.after scene).contains handle = scene.contains handle := by
  obtain ⟨change, alters⟩ := exists_change touches
  rw [alters]
  split
  · exact Scene.contains_alter scene cell change handle
  · rfl

/-! ### Two operations -/

/-- Whether an operation is refused does not depend on an independent one before it. -/
theorem fault?_after (independent : first.IsIndependentOf second) (scene : Scene) :
    second.fault? (first.after scene) = second.fault? scene := by
  obtain ⟨cell, other, touches, otherTouches, -⟩ := independent
  rw [fault?_of_cell? otherTouches, fault?_of_cell? otherTouches,
    Scene.firstDead?_congr (contains_after touches scene)]

/-- Two independent operations leave the same scene in either order. -/
theorem after_comm (independent : first.IsIndependentOf second) (scene : Scene) :
    second.after (first.after scene) = first.after (second.after scene) := by
  have same := fault?_after independent scene
  have otherSame := fault?_after independent.symm scene
  obtain ⟨cell, other, touches, otherTouches, different⟩ := independent
  obtain ⟨change, alters⟩ := exists_change touches
  obtain ⟨more, otherAlters⟩ := exists_change otherTouches
  rw [otherAlters (first.after scene), alters (second.after scene), same, otherSame, alters scene,
    otherAlters scene]
  by_cases done : first.fault? scene = none
  · by_cases otherDone : second.fault? scene = none
    · simp only [done, otherDone, if_true]
      exact Scene.alter_comm different change more
    · simp only [done, otherDone, if_true, if_false]
  · simp only [done, if_false]

/-! ### Any number of operations -/

/-- Nor does it depend on any number of independent operations before it. -/
theorem fault?_afterAll {front : List Operation}
    (independent : ∀ earlier ∈ front, earlier.IsIndependentOf operation) (scene : Scene) :
    operation.fault? (afterAll scene front) = operation.fault? scene := by
  induction front generalizing scene with
  | nil => rfl
  | cons earlier front inductionHypothesis =>
    have later : ∀ between ∈ front, between.IsIndependentOf operation :=
      fun between member => independent between (List.mem_cons_of_mem earlier member)
    rw [afterAll, List.foldl_cons, ← afterAll, inductionHypothesis later,
      fault?_after (independent earlier List.mem_cons_self)]

/-- Pairwise independent operations leave the same scene in any order. The induction is on the
permutation. -/
theorem afterAll_perm {batch other : List Operation} (pairwise : batch.Pairwise IsIndependentOf)
    (reordered : batch.Perm other) (scene : Scene) :
    afterAll scene other = afterAll scene batch := by
  have symmetric : Std.Symm IsIndependentOf := ⟨fun _ _ independent => independent.symm⟩
  refine (reordered.foldl_eq' (fun first member second otherMember between => ?_) scene).symm
  by_cases same : first = second
  · rw [same]
  · exact after_comm (pairwise.forall member otherMember same) between

end Operation

namespace Scene

/-- Edits of lists and payloads commute if they are independent: they leave the same scene in either
order, and each of them ends in the second place as in the first, with the same fault or without
one, which is all that these edits answer. So edits that are independent of each other leave the
same scene in every order, with the same text and the same report, and each one ends as it does in
the scene before all of them. -/
theorem independent_edits_commute (scene : Scene) :
    (∀ first second : Operation, first.IsIndependentOf second →
      second.after (first.after scene) = first.after (second.after scene) ∧
      second.fault? (first.after scene) = second.fault? scene ∧
      first.fault? (second.after scene) = first.fault? scene) ∧
    ∀ batch other : List Operation, batch.Pairwise Operation.IsIndependentOf →
      batch.Perm other →
      Operation.afterAll scene other = Operation.afterAll scene batch ∧
      (Operation.afterAll scene other).text = (Operation.afterAll scene batch).text ∧
      (Operation.afterAll scene other).report = (Operation.afterAll scene batch).report ∧
      ∀ front operation rest, other = front ++ operation :: rest →
        operation.fault? (Operation.afterAll scene front) = operation.fault? scene := by
  constructor
  · intro first second independent
    exact ⟨Operation.after_comm independent scene, Operation.fault?_after independent scene,
      Operation.fault?_after independent.symm scene⟩
  · intro batch other pairwise reordered
    have same := Operation.afterAll_perm pairwise reordered scene
    refine ⟨same, congrArg text same, congrArg report same, ?_⟩
    rintro front operation rest rfl
    have apart := List.pairwise_append.mp (pairwise.perm reordered Operation.IsIndependentOf.symm)
    exact Operation.fault?_afterAll
      (fun earlier member => apart.2.2 earlier member operation List.mem_cons_self) scene

/-- The node at the top is updated, another one is put in front of it, a twin is taken out of its
list, and a dead handle is refused as a child of the other one, in this order and the other way
round. -/
theorem independent_edits_commute_twins :
    let batch : List Operation := [.update ⟨1, 1⟩ [("comment", .string "first")],
      .insertBefore .top ⟨3, 1⟩ ⟨1, 1⟩, .remove (.under ⟨1, 1⟩) ⟨2, 1⟩,
      .append (.under ⟨3, 1⟩) ⟨4, 1⟩]
    (Operation.afterAll twins batch.reverse).text = (Operation.afterAll twins batch).text ∧
      (Operation.append (.under ⟨3, 1⟩) ⟨4, 1⟩).fault?
          (Operation.afterAll twins (batch.take 3)) = some (.unknownNode ⟨4, 1⟩) ∧
      (Operation.clear.after ((Operation.update ⟨2, 1⟩ []).after twins)) =
        (Operation.update ⟨2, 1⟩ []).after (Operation.clear.after twins) := by
  intro batch
  have pairwise : batch.Pairwise Operation.IsIndependentOf := by
    simp [batch, Operation.IsIndependentOf, Operation.cell?]
  have alone : (Operation.append (.under ⟨3, 1⟩) ⟨4, 1⟩).fault? twins =
      some (.unknownNode ⟨4, 1⟩) := by cbv
  obtain ⟨pairs, batches⟩ := independent_edits_commute twins
  have separate : (Operation.update ⟨2, 1⟩ []).IsIndependentOf .clear :=
    ⟨_, _, rfl, rfl, by simp⟩
  refine ⟨(batches batch batch.reverse pairwise (List.reverse_perm batch).symm).2.1, ?_,
    (pairs _ _ separate).1⟩
  rw [(batches batch batch pairwise (List.Perm.refl batch)).2.2.2 _ _ [] rfl, alone]

end Scene

end SolidScene
