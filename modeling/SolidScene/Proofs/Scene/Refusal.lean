/-
This file says which operations are refused. An operation needs some handles to be
live and looks at them one after the other; the first that is dead is named in the
fault. A copy looks at handles all the way through, while it adds nodes. It too is
refused before it adds the first one or not at all, because in a scene that arises
by operations no list of a live node holds a dead handle.

Which handles an operation needs, and in which order, is a table, and the fault that
an operation ends with is computed from the table without running it. For each edit
it is shown that it heeds its row: it fails with this fault and leaves the scene as
it was, or it succeeds where there is none. A handle that an operation uses and that
is not in the table may be dead: a child that is taken out of a list, and the
sibling in front of which a child is put.
-/
import SolidScene.Proofs.Scene.History

namespace SolidScene

/-- The parent that a list is under, if it is under one. -/
def Site.parent? : Site → Option Handle
  | top => none
  | under parent => some parent

namespace Scene

variable {scene : Scene} {handle : Handle}

/-- The first of some handles that is dead. -/
def firstDead? (scene : Scene) (handles : List Handle) : Option Handle :=
  handles.find? fun handle => !scene.contains handle

theorem firstDead?_nil (scene : Scene) : scene.firstDead? [] = none := rfl

theorem firstDead?_cons_of_live (live : scene.contains handle) (rest : List Handle) :
    scene.firstDead? (handle :: rest) = scene.firstDead? rest := by
  simp [firstDead?, live]

theorem firstDead?_cons_of_dead (dead : ¬ scene.contains handle) (rest : List Handle) :
    scene.firstDead? (handle :: rest) = some handle := by
  simp [firstDead?, dead]

end Scene

namespace Edit

variable {α : Type} {edit : Edit α} {scene : Scene} {refusal : Option Fault}

/-- The fault that an edit ends with, unless it succeeds. -/
def fault? (edit : Edit α) (scene : Scene) : Option Fault :=
  match edit.run scene with
  | .ok _ _ => none
  | .error fault _ => some fault

/-- An edit is refused with the given fault and leaves the scene as it was; without a fault it
succeeds. -/
def Heeds (edit : Edit α) (scene : Scene) : Option Fault → Prop
  | some fault => edit.run scene = .error fault scene
  | none => ∃ answer after, edit.run scene = .ok answer after

/-- What an edit heeds is the fault that it ends with. -/
theorem Heeds.fault?_eq (heeds : edit.Heeds scene refusal) : edit.fault? scene = refusal := by
  cases refusal with
  | some fault => rw [fault?, heeds]
  | none =>
    obtain ⟨answer, after, run⟩ := heeds
    rw [fault?, run]

/-- What fails leaves the scene as it was. -/
theorem Heeds.after_eq (heeds : edit.Heeds scene refusal) (fails : edit.fault? scene ≠ none) :
    edit.after scene = scene := by
  rw [heeds.fault?_eq] at fails
  obtain ⟨fault, rfl⟩ := Option.ne_none_iff_exists'.mp fails
  exact after_of_error heeds

/-- Edits that run alike heed the same. -/
theorem Heeds.congr {other : Edit α} (heeds : edit.Heeds scene refusal)
    (same : other.run scene = edit.run scene) : other.Heeds scene refusal := by
  cases refusal with
  | some fault => exact same.trans heeds
  | none =>
    obtain ⟨answer, after, run⟩ := heeds
    exact ⟨answer, after, same.trans run⟩

/-! ### Edits of one list -/

/-- An edit of a list needs the parent of the list, if it has one. -/
theorem heeds_relist (scene : Scene) (site : Site) (change : List Handle → List Handle) :
    (relist site change).Heeds scene
      ((scene.firstDead? site.parent?.toList).map .unknownNode) := by
  rcases scene.list?_cases site with ⟨list, found⟩ | ⟨parent, rfl, dead⟩
  · have none : scene.firstDead? site.parent?.toList = none := by
      cases site with
      | top => rfl
      | under parent =>
        obtain ⟨payload, held⟩ := Scene.exists_node_of_list? found
        exact Scene.firstDead?_cons_of_live (Arena.contains_of_get? held) []
    rw [none]
    exact ⟨(), _, run_relist found change⟩
  · rw [Site.parent?, Option.toList_some, Scene.firstDead?_cons_of_dead dead]
    exact run_relist_of_dead dead change

/-- A child that is brought into a list is looked at before the parent. -/
theorem heeds_ensureLive_relist (scene : Scene) (site : Site) (child : Handle)
    (change : List Handle → List Handle) :
    (ensureLive child >>= fun _ => relist site change).Heeds scene
      ((scene.firstDead? (child :: site.parent?.toList)).map .unknownNode) := by
  by_cases live : scene.contains child
  · rw [Scene.firstDead?_cons_of_live live]
    exact (heeds_relist scene site change).congr (run_ensureLive_relist live change)
  · rw [Scene.firstDead?_cons_of_dead live]
    exact run_ensureLive_relist_of_dead live change

/-! ### Edits of one node -/

/-- An edit that succeeds on a live handle, and is refused on a dead one, heeds that handle. -/
theorem heeds_of_handle {handle : Handle}
    (succeeds : scene.contains handle → ∃ answer after, edit.run scene = .ok answer after)
    (refused : ¬ scene.contains handle → edit.run scene = .error (.unknownNode handle) scene) :
    edit.Heeds scene ((scene.firstDead? [handle]).map .unknownNode) := by
  by_cases live : scene.contains handle
  · rw [Scene.firstDead?_cons_of_live live, Scene.firstDead?_nil]
    exact succeeds live
  · rw [Scene.firstDead?_cons_of_dead live]
    exact refused live

theorem heeds_update (scene : Scene) (handle : Handle) (bag : Props) :
    (update handle bag).Heeds scene ((scene.firstDead? [handle]).map .unknownNode) := by
  refine heeds_of_handle (fun live => ?_) fun dead => run_update_of_dead dead bag
  obtain ⟨⟨payload, children⟩, found⟩ := Arena.contains_iff.mp live
  exact ⟨(), _, run_update found bag⟩

/-- A copy of a live node succeeds: every handle that it meets below the node is live. -/
theorem heeds_clone (closed : scene.IsClosed) {handle : Handle} {withChildren : Bool}
    (admitted : (Operation.clone handle withChildren).IsAdmitted scene) :
    (clone handle withChildren).Heeds scene ((scene.firstDead? [handle]).map .unknownNode) := by
  refine heeds_of_handle (fun live => ?_) fun dead => run_clone_of_dead dead withChildren
  cases withChildren with
  | false =>
    obtain ⟨node, found⟩ := Arena.contains_iff.mp live
    exact ⟨_, _, run_clone_alone found⟩
  | true =>
    obtain ⟨solid, unfolds⟩ := Scene.exists_unfolds closed live admitted
    obtain ⟨copy, after, run, _⟩ := run_clone closed unfolds
    exact ⟨copy, after, run⟩

end Edit

namespace Operation

/-- The fault that an operation ends with, unless it succeeds. -/
def fault? (scene : Scene) : Operation → Option Fault
  | create name bag => (Edit.create name bag).fault? scene
  | insert payload => (Edit.insert payload).fault? scene
  | createText content => (Edit.createText content).fault? scene
  | update handle bag => (Edit.update handle bag).fault? scene
  | clone handle withChildren => (Edit.clone handle withChildren).fault? scene
  | append site child => (Edit.append site child).fault? scene
  | insertBefore site child before => (Edit.insertBefore site child before).fault? scene
  | remove site child => (Edit.remove site child).fault? scene
  | clear => Edit.clear.fault? scene
  | prune => Edit.prune.fault? scene

/-- The handles that an operation needs to be live, in the order in which it looks at them. The
node in front of which a child is put is not needed, nor is a child that is taken out of a list. -/
def needs : Operation → List Handle
  | update handle _ => [handle]
  | clone handle _ => [handle]
  | append site child => child :: site.parent?.toList
  | insertBefore site child _ => child :: site.parent?.toList
  | remove site _ => site.parent?.toList
  | create .. => []
  | insert _ => []
  | createText _ => []
  | clear => []
  | prune => []

/-- The fault that an operation is refused with: always one for a text, else one for the first
dead handle among those that it needs. -/
def refusal? (scene : Scene) : Operation → Option Fault
  | createText content => some (.bareText content)
  | operation => (scene.firstDead? operation.needs).map .unknownNode

end Operation

namespace Scene

/-- In every scene that arises by operations, an operation fails exactly if it is refused, for a
text or for a dead handle that it needs, and the fault names that text or the first such handle.
Whatever fails leaves the scene as it was. -/
theorem fails_iff_refused {scene : Scene} (built : scene.IsBuilt) (operation : Operation)
    (admitted : operation.IsAdmitted scene) :
    operation.fault? scene = operation.refusal? scene ∧
      (operation.fault? scene ≠ none → operation.after scene = scene) := by
  have both {α : Type} {edit : Edit α} {refusal : Option Fault} (heeds : edit.Heeds scene refusal) :
      edit.fault? scene = refusal ∧ (edit.fault? scene ≠ none → edit.after scene = scene) :=
    ⟨heeds.fault?_eq, heeds.after_eq⟩
  have accepted {α : Type} {edit : Edit α} {answer : α} {after : Scene}
      (run : edit.run scene = .ok answer after) : edit.Heeds scene none := ⟨answer, after, run⟩
  cases operation with
  | create name bag => exact both (accepted (Edit.run_create scene name bag))
  | insert payload => exact both (accepted (Edit.run_insert scene payload))
  | createText content =>
    have refused : (Edit.createText content).Heeds scene (some (.bareText content)) :=
      Edit.run_createText scene content
    exact both refused
  | update handle bag => exact both (Edit.heeds_update scene handle bag)
  | clone handle withChildren => exact both (Edit.heeds_clone built.isClosed admitted)
  | append site child => exact both (Edit.heeds_ensureLive_relist scene site child _)
  | insertBefore site child before => exact both (Edit.heeds_ensureLive_relist scene site child _)
  | remove site child => exact both (Edit.heeds_relist scene site _)
  | clear => exact both (accepted (Edit.run_clear scene))
  | prune => exact both (accepted (Edit.run_prune scene))

/-- Where the child and the parent are both dead the child is named, and the circle stays as it
is. A node with a child that stands twice in its list is copied. -/
theorem fails_iff_refused_circle_and_twins :
    (Operation.insertBefore (.under ⟨1, 1⟩) ⟨2, 1⟩ ⟨2, 3⟩).fault? circle =
        some (.unknownNode ⟨2, 1⟩) ∧
      (Operation.insertBefore (.under ⟨1, 1⟩) ⟨2, 1⟩ ⟨2, 3⟩).after circle = circle ∧
      (Operation.clone ⟨1, 1⟩ true).fault? twins = none := by
  obtain ⟨fails, stays⟩ := fails_iff_refused isBuilt_circle
    (.insertBefore (.under ⟨1, 1⟩) ⟨2, 1⟩ ⟨2, 3⟩) trivial
  have refusal : (Operation.insertBefore (.under ⟨1, 1⟩) ⟨2, 1⟩ ⟨2, 3⟩).refusal? circle =
      some (.unknownNode ⟨2, 1⟩) := by cbv
  have named := fails.trans refusal
  have copied := (fails_iff_refused isBuilt_twins (.clone ⟨1, 1⟩ true)
    unfolds_twins.isAcyclicFrom).1
  exact ⟨named, stays (by simp [named]), copied.trans (by cbv)⟩

end Scene

end SolidScene
