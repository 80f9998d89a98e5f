/-
This file says when changes of a scene that touch its nodes and its top one at a
time undo or pass each other. What is put under a handle replaces what was put there
before, what was there already changes nothing, and under different handles the
order does not matter. Since a replaced item keeps its slot and its version, these
are equations between whole scenes: the vacant slots and the handles that come next
are the same, too.

A change of one node is written as a function on nodes, so that two changes of the
same node are one change by the composed function, and two changes of different
parts of a node, its payload and its list, are in the same way independent of their
order. On a dead handle a change does nothing; in this form the equations need no
condition that a handle is live.
-/
import SolidScene.Proofs.Scene.Change

namespace SolidScene

namespace Arena

variable {α : Type} {arena : Arena α} {handle other : Handle}

/-! ### Replacing items -/

/-- An arena is nothing but its slots and its vacancies; the rest are proofs. -/
theorem eq_of_slots_eq {left right : Arena α} (slots : left.slots = right.slots)
    (vacancies : left.vacancies = right.vacancies) : left = right := by
  cases left
  cases right
  cases slots
  cases vacancies
  rfl

theorem slots_set (live : arena.contains handle) (item : α) :
    (arena.set handle item).slots =
      arena.slots.setIfInBounds handle.index (.occupied handle.version item) := by
  rw [set, dif_pos live]

@[simp] theorem vacancies_set (arena : Arena α) (handle : Handle) (item : α) :
    (arena.set handle item).vacancies = arena.vacancies := by
  rw [set]
  split <;> rfl

theorem set_of_dead (dead : ¬ arena.contains handle) (item : α) : arena.set handle item = arena :=
  dif_neg dead

/-- Of two items under one handle the second counts. -/
theorem set_set (arena : Arena α) (handle : Handle) (first second : α) :
    (arena.set handle first).set handle second = arena.set handle second := by
  by_cases live : arena.contains handle
  · refine eq_of_slots_eq ?_ (by simp)
    rw [slots_set (contains_set_iff.mpr live), slots_set live, slots_set live,
      Array.setIfInBounds_setIfInBounds]
  · rw [set_of_dead live]

/-- The item that is there already changes nothing. -/
theorem set_of_get? {item : α} (found : arena.get? handle = some item) :
    arena.set handle item = arena := by
  have live := contains_of_get? found
  obtain ⟨held, slot⟩ := occupied_of_contains live
  have same : held = item := by simpa [get?, slot, Slot.item?] using found
  obtain ⟨inBounds, there⟩ := Array.getElem?_eq_some_iff.mp slot
  refine eq_of_slots_eq ?_ (vacancies_set arena handle item)
  rw [slots_set live, ← same, ← there]
  simp [Array.setIfInBounds, inBounds]

/-- Two live handles with one slot are the same. -/
theorem index_ne_of_ne (live : arena.contains handle) (otherLive : arena.contains other)
    (different : handle ≠ other) : handle.index ≠ other.index := by
  intro sameSlot
  obtain ⟨held, slot⟩ := occupied_of_contains live
  obtain ⟨otherHeld, otherSlot⟩ := occupied_of_contains otherLive
  rw [← sameSlot, slot, Option.some.injEq, Slot.occupied.injEq] at otherSlot
  rcases index_ne_or_version_ne different with apart | apart
  · exact apart sameSlot
  · exact apart otherSlot.1

/-- Under different handles items can be replaced in either order. -/
theorem set_comm (different : handle ≠ other) (item more : α) :
    (arena.set handle item).set other more = (arena.set other more).set handle item := by
  by_cases live : arena.contains handle
  · by_cases otherLive : arena.contains other
    · refine eq_of_slots_eq ?_ (by simp)
      rw [slots_set (contains_set_iff.mpr otherLive), slots_set live,
        slots_set (contains_set_iff.mpr live), slots_set otherLive,
        Array.setIfInBounds_comm _ _ (index_ne_of_ne live otherLive different)]
    · rw [set_of_dead otherLive, set_of_dead (mt contains_set_iff.mp otherLive)]
  · rw [set_of_dead live, set_of_dead (mt contains_set_iff.mp live)]

end Arena

namespace Scene

variable {scene : Scene} {handle other : Handle}

/-! ### Changing nodes -/

/-- The scene with the node of a handle changed; a handle that is not live has none. -/
def alterNode (scene : Scene) (handle : Handle) (change : Node → Node) : Scene :=
  match scene.nodes.get? handle with
  | some node => scene.setNode handle (change node)
  | none => scene

theorem alterNode_of_get? {node : Node} (found : scene.nodes.get? handle = some node)
    (change : Node → Node) :
    scene.alterNode handle change = scene.setNode handle (change node) := by
  rw [alterNode, found]

theorem alterNode_of_dead (dead : ¬ scene.contains handle) (change : Node → Node) :
    scene.alterNode handle change = scene := by
  rw [alterNode, Arena.get?_eq_none_iff.mpr dead]

@[simp] theorem contains_alterNode (scene : Scene) (altered : Handle) (change : Node → Node)
    (handle : Handle) :
    (scene.alterNode altered change).contains handle = scene.contains handle := by
  rw [alterNode]
  split
  · exact Bool.eq_iff_iff.mpr contains_setNode_iff
  · rfl

theorem get?_alterNode_self {node : Node} (found : scene.nodes.get? handle = some node)
    (change : Node → Node) :
    (scene.alterNode handle change).nodes.get? handle = some (change node) := by
  rw [alterNode_of_get? found, get?_setNode_self (Arena.contains_of_get? found)]

theorem get?_alterNode_of_ne (different : other ≠ handle) (change : Node → Node) :
    (scene.alterNode handle change).nodes.get? other = scene.nodes.get? other := by
  rw [alterNode]
  split
  · exact get?_setNode_of_ne different _
  · rfl

/-- Two changes of one node are one change. -/
theorem alterNode_alterNode (scene : Scene) (handle : Handle) (first second : Node → Node) :
    (scene.alterNode handle first).alterNode handle second =
      scene.alterNode handle fun node => second (first node) := by
  by_cases live : scene.contains handle
  · obtain ⟨node, found⟩ := Arena.contains_iff.mp live
    rw [alterNode_of_get? (get?_alterNode_self found first), alterNode_of_get? found,
      alterNode_of_get? found, setNode, setNode, setNode, Arena.set_set]
  · rw [alterNode_of_dead live, alterNode_of_dead live, alterNode_of_dead live]

/-- A change that leaves the node as it is leaves the scene as it is. -/
theorem alterNode_of_fixed {change : Node → Node}
    (fixed : ∀ node, scene.nodes.get? handle = some node → change node = node) :
    scene.alterNode handle change = scene := by
  by_cases live : scene.contains handle
  · obtain ⟨node, found⟩ := Arena.contains_iff.mp live
    rw [alterNode_of_get? found, fixed node found, setNode, Arena.set_of_get? found]
  · exact alterNode_of_dead live change

/-- Changes of nodes pass each other if they concern different nodes, or change different parts of
a node. -/
theorem alterNode_comm {first second : Node → Node}
    (apart : handle = other → ∀ node, second (first node) = first (second node)) :
    (scene.alterNode handle first).alterNode other second =
      (scene.alterNode other second).alterNode handle first := by
  by_cases same : handle = other
  · subst same
    rw [alterNode_alterNode, alterNode_alterNode]
    exact congrArg (scene.alterNode handle) (funext (apart rfl))
  · by_cases live : scene.contains handle
    · by_cases otherLive : scene.contains other
      · obtain ⟨node, found⟩ := Arena.contains_iff.mp live
        obtain ⟨otherNode, otherFound⟩ := Arena.contains_iff.mp otherLive
        have later := (get?_alterNode_of_ne (Ne.symm same) first).trans otherFound
        have otherLater := (get?_alterNode_of_ne same second).trans found
        rw [alterNode_of_get? later, alterNode_of_get? otherLater, alterNode_of_get? found,
          alterNode_of_get? otherFound, setNode, setNode, setNode, setNode, Arena.set_comm same]
      · have later : ¬ (scene.alterNode handle first).contains other := by
          rwa [contains_alterNode]
        rw [alterNode_of_dead later, alterNode_of_dead otherLive]
    · have later : ¬ (scene.alterNode other second).contains handle := by
        rwa [contains_alterNode]
      rw [alterNode_of_dead later, alterNode_of_dead live]

/-! ### Changing lists and payloads -/

/-- The scene with the list of a site changed. -/
def alterList (scene : Scene) (site : Site) (change : List Handle → List Handle) : Scene :=
  match site with
  | .top => { scene with top := change scene.top }
  | .under parent =>
    scene.alterNode parent fun node => { node with children := change node.children }

/-- The scene with the payload of a node changed. -/
def alterPayload (scene : Scene) (handle : Handle) (change : Payload → Payload) : Scene :=
  scene.alterNode handle fun node => { node with payload := change node.payload }

@[simp] theorem contains_alterList (scene : Scene) (site : Site)
    (change : List Handle → List Handle) (handle : Handle) :
    (scene.alterList site change).contains handle = scene.contains handle := by
  cases site with
  | top => rfl
  | under parent => exact contains_alterNode scene parent _ handle

@[simp] theorem contains_alterPayload (scene : Scene) (altered : Handle)
    (change : Payload → Payload) (handle : Handle) :
    (scene.alterPayload altered change).contains handle = scene.contains handle :=
  contains_alterNode scene altered _ handle

/-- To put a list at a site is to change the list there to it. -/
theorem setList_eq_alterList (scene : Scene) (site : Site) (list : List Handle) :
    scene.setList site list = scene.alterList site fun _ => list := by
  cases site <;> rfl

/-- To change a list that is there is to put the changed list at its site. -/
theorem alterList_of_list? {site : Site} {list : List Handle}
    (found : scene.list? site = some list) (change : List Handle → List Handle) :
    scene.alterList site change = scene.setList site (change list) := by
  cases site with
  | top =>
    cases found
    rfl
  | under parent =>
    obtain ⟨payload, held⟩ := exists_node_of_list? found
    rw [alterList, alterNode_of_get? held, setList_under held]

/-- Of two lists at one site the second counts. -/
theorem setList_setList (scene : Scene) (site : Site) (first second : List Handle) :
    (scene.setList site first).setList site second = scene.setList site second := by
  simp only [setList_eq_alterList]
  cases site with
  | top => rfl
  | under parent => exact alterNode_alterNode scene parent _ _

/-- The list that is there already changes nothing. -/
theorem setList_of_list? {site : Site} {list : List Handle}
    (found : scene.list? site = some list) : scene.setList site list = scene := by
  cases site with
  | top =>
    cases found
    rfl
  | under parent =>
    obtain ⟨payload, held⟩ := exists_node_of_list? found
    rw [setList_eq_alterList]
    refine alterNode_of_fixed fun node nodeAt => ?_
    cases held.symm.trans nodeAt
    rfl

/-- The list at the top is not part of any node. -/
theorem alterList_top_alterNode (scene : Scene) (handle : Handle) (change : Node → Node)
    (list : List Handle → List Handle) :
    (scene.alterNode handle change).alterList .top list =
      (scene.alterList .top list).alterNode handle change := by
  cases found : scene.nodes.get? handle with
  | none =>
    simp only [alterList, alterNode, found]
  | some node =>
    simp only [alterList, alterNode, found]
    rfl

theorem alterList_comm {site otherSite : Site} (different : site ≠ otherSite)
    (first second : List Handle → List Handle) :
    (scene.alterList site first).alterList otherSite second =
      (scene.alterList otherSite second).alterList site first := by
  cases site with
  | top =>
    cases otherSite with
    | top => exact absurd rfl different
    | under parent => exact (alterList_top_alterNode scene parent _ first).symm
  | under parent =>
    cases otherSite with
    | top => exact alterList_top_alterNode scene parent _ second
    | under otherParent =>
      exact alterNode_comm fun same => absurd (congrArg Site.under same) different

theorem alterPayload_comm (different : handle ≠ other) (first second : Payload → Payload) :
    (scene.alterPayload handle first).alterPayload other second =
      (scene.alterPayload other second).alterPayload handle first :=
  alterNode_comm fun same => absurd same different

/-- The list under a node is not part of its payload. -/
theorem alterList_alterPayload_comm (site : Site) (handle : Handle)
    (list : List Handle → List Handle) (payload : Payload → Payload) :
    (scene.alterPayload handle payload).alterList site list =
      (scene.alterList site list).alterPayload handle payload := by
  cases site with
  | top => exact alterList_top_alterNode scene handle _ list
  | under parent => exact alterNode_comm fun _ _ => rfl

end Scene

end SolidScene
