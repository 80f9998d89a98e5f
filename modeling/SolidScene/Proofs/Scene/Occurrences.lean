/-
This file counts how often a handle stands in the lists of a scene, the one at the
top and the ones of the nodes. The lists are put one after the other, up to the
order: a new node adds its own list to them, and another list at a site takes the
place of the old one, while the rest stays.

The order of the lists after one another is that of the slots, which means nothing,
so everything is said up to permutation and in the end only by counting. A place
counts also where its list is under a node that is not attached: a handle in such a
list would have two places as soon as it were put into another one, and the contract
of those who edit a scene is about these places.
-/
import SolidScene.Proofs.Scene.Change

namespace SolidScene

namespace Scene

/-! ### All lists -/

/-- The lists of the scene one after the other, the one at the top in front. -/
def listed (scene : Scene) : List Handle :=
  scene.top ++ scene.nodes.handles.flatMap scene.children

/-- The number of places of a handle in the lists of the scene. -/
def occurrences (scene : Scene) (handle : Handle) : Nat := scene.listed.count handle

/-- The lists hold what is at the top and what is the child of some node. -/
theorem mem_listed_iff {scene : Scene} {handle : Handle} :
    handle ∈ scene.listed ↔ handle ∈ scene.top ∨ ∃ parent, scene.IsChild parent handle := by
  rw [listed, List.mem_append, List.mem_flatMap]
  refine or_congr_right ⟨fun ⟨parent, _, step⟩ => ⟨parent, step⟩, fun ⟨parent, step⟩ => ?_⟩
  obtain ⟨node, found, _⟩ := step.exists_node
  exact ⟨parent, Arena.mem_handles_iff.mpr (Arena.contains_of_get? found), step⟩

/-- A handle that is not live stands in no list. -/
theorem IsClosed.occurrences_of_dead {scene : Scene} (closed : scene.IsClosed) {handle : Handle}
    (dead : ¬ scene.contains handle) : scene.occurrences handle = 0 := by
  refine List.count_eq_zero.mpr fun member => ?_
  rcases mem_listed_iff.mp member with top | ⟨parent, step⟩
  · exact dead (closed.top_live handle top)
  · exact dead (closed.child_live parent handle step)

/-! ### Lists after a change -/

/-- Only the nodes of the handles tell the lists under them. -/
theorem flatMap_children_congr {first second : Scene} {handles : List Handle}
    (same : ∀ handle ∈ handles, first.nodes.get? handle = second.nodes.get? handle) :
    handles.flatMap first.children = handles.flatMap second.children := by
  rw [List.flatMap_def, List.flatMap_def]
  refine congrArg List.flatten (List.map_congr_left fun handle member => ?_)
  rw [children, children, same handle member]

/-- A new node adds its own list. -/
theorem listed_withNode_perm (scene : Scene) (node : Node) :
    (scene.withNode node).listed.Perm (node.children ++ scene.listed) := by
  have handles : (scene.withNode node).nodes.handles.Perm
      (scene.freshHandle node :: scene.nodes.handles) := Arena.handles_insert_perm _ _
  have others : scene.nodes.handles.flatMap (scene.withNode node).children =
      scene.nodes.handles.flatMap scene.children :=
    flatMap_children_congr fun handle member =>
      get?_withNode_of_ne (ne_freshHandle (Arena.mem_handles_iff.mp member))
  have split := handles.flatMap_right (scene.withNode node).children
  rw [List.flatMap_cons, children_of_get? (get?_withNode_self scene node), others] at split
  exact (split.append_left scene.top).trans (List.perm_append_comm_assoc _ _ _)

/-- Another node under a handle changes its own list and no other. -/
theorem exists_listed_setNode_perm {scene : Scene} {changed : Handle} {before : Node}
    (found : scene.nodes.get? changed = some before) (after : Node) :
    ∃ rest, scene.listed.Perm (before.children ++ rest) ∧
      (scene.setNode changed after).listed.Perm (after.children ++ rest) := by
  have live := Arena.contains_of_get? found
  have handles : scene.nodes.handles.Perm (changed :: scene.nodes.handles.erase changed) :=
    List.perm_cons_erase (Arena.mem_handles_iff.mpr live)
  have laterHandles : (scene.setNode changed after).nodes.handles.Perm
      (changed :: scene.nodes.handles.erase changed) :=
    (Arena.handles_set_perm _ _ _).trans handles
  have others : (scene.nodes.handles.erase changed).flatMap (scene.setNode changed after).children =
      (scene.nodes.handles.erase changed).flatMap scene.children :=
    flatMap_children_congr fun handle member =>
      get?_setNode_of_ne (scene.nodes.handles_nodup.mem_erase_iff.mp member).1 after
  have split := handles.flatMap_right scene.children
  have laterSplit := laterHandles.flatMap_right (scene.setNode changed after).children
  rw [List.flatMap_cons, children_of_get? found] at split
  rw [List.flatMap_cons, children_of_get? (get?_setNode_self live after), others] at laterSplit
  exact ⟨_, (split.append_left scene.top).trans (List.perm_append_comm_assoc _ _ _),
    (laterSplit.append_left scene.top).trans (List.perm_append_comm_assoc _ _ _)⟩

/-- Another list at a site takes the place of the old one. -/
theorem exists_listed_setList_perm {scene : Scene} {site : Site} {list : List Handle}
    (found : scene.list? site = some list) (other : List Handle) :
    ∃ rest, scene.listed.Perm (list ++ rest) ∧
      (scene.setList site other).listed.Perm (other ++ rest) := by
  cases site with
  | top =>
    cases found
    exact ⟨_, List.Perm.refl _, List.Perm.refl _⟩
  | under parent =>
    obtain ⟨payload, held⟩ := exists_node_of_list? found
    rw [setList_under held]
    exact exists_listed_setNode_perm held ⟨payload, other⟩

/-! ### Places after a change -/

theorem occurrences_withNode (scene : Scene) (node : Node) (handle : Handle) :
    (scene.withNode node).occurrences handle =
      node.children.count handle + scene.occurrences handle := by
  rw [occurrences, (listed_withNode_perm scene node).count_eq, List.count_append, occurrences]

/-- Another list at a site gives its places for those of the old one. -/
theorem occurrences_setList {scene : Scene} {site : Site} {list : List Handle}
    (found : scene.list? site = some list) (other : List Handle) (handle : Handle) :
    (scene.setList site other).occurrences handle + list.count handle =
      scene.occurrences handle + other.count handle := by
  obtain ⟨rest, before, after⟩ := exists_listed_setList_perm found other
  rw [occurrences, after.count_eq, List.count_append, occurrences, before.count_eq,
    List.count_append]
  omega

end Scene

end SolidScene
