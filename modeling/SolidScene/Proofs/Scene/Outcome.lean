/-
This file says how the edits of a scene end: with which answer or which fault, and
in which scene. The three edits of a list differ only in what they make of it, so
they are told apart by one function on lists. An edit that fails on a dead handle
leaves the scene as it was.

There are two equations for each edit, for the handles that it needs being live and
for one of them being dead. The result of a run is given as a whole, with its answer
and its scene, and later files cite these equations in place of unfolding an edit.
What is left behind in either case has a name of its own, and one lemma about two
edits after each other lets invariants pass through a failure in the middle.
-/
import SolidScene.Proofs.Scene.Change
import SolidScene.Scene.Edit

namespace SolidScene

/-- Another list at a site. The three edits of a list are this after a look at the child. -/
def Edit.relist (site : Site) (change : List Handle → List Handle) : Edit Unit := do
  let list ← Edit.list site
  modify fun scene => scene.setList site (change list)

/-- The scene that an edit leaves behind, whether it succeeds or fails. -/
def Edit.after {α : Type} (edit : Edit α) (scene : Scene) : Scene :=
  match edit.run scene with
  | .ok _ after => after
  | .error _ after => after

theorem Edit.after_of_ok {α : Type} {edit : Edit α} {scene after : Scene} {answer : α}
    (run : edit.run scene = .ok answer after) : edit.after scene = after := by
  rw [Edit.after, run]

theorem Edit.after_of_error {α : Type} {edit : Edit α} {scene after : Scene} {fault : Fault}
    (run : edit.run scene = .error fault after) : edit.after scene = after := by
  rw [Edit.after, run]

/-- What one edit leaves behind and the next one keeps, the two leave behind together, whether the
first one fails or not. -/
theorem Edit.after_bind {α β : Type} {property : Scene → Prop} {edit : Edit α}
    {next : α → Edit β} {scene : Scene} (first : property (edit.after scene))
    (second : ∀ answer between, property between → property ((next answer).after between)) :
    property ((edit >>= next).after scene) := by
  rw [Edit.after] at first ⊢
  rw [EStateM.run_bind]
  cases run : edit.run scene with
  | ok answer between =>
    rw [run] at first
    exact second answer between first
  | error fault between =>
    rw [run] at first
    exact first

namespace Scene

/-- A site has a list, or it is under a node that is not live. -/
theorem list?_cases (scene : Scene) (site : Site) :
    (∃ list, scene.list? site = some list) ∨
      ∃ parent, site = .under parent ∧ ¬ scene.contains parent := by
  cases site with
  | top => exact Or.inl ⟨scene.top, rfl⟩
  | under parent =>
    by_cases live : scene.contains parent
    · obtain ⟨node, found⟩ := Arena.contains_iff.mp live
      exact Or.inl ⟨node.children, by rw [list?, found, Option.map_some]⟩
    · exact Or.inr ⟨parent, rfl, live⟩

end Scene

namespace Edit

variable {scene : Scene} {site : Site} {handle child before : Handle} {list : List Handle}

/-! ### Nodes -/

theorem run_insertNode (scene : Scene) (node : Node) :
    (insertNode node).run scene = .ok (scene.freshHandle node) (scene.withNode node) := rfl

theorem run_insert (scene : Scene) (payload : Payload) :
    (insert payload).run scene =
      .ok (scene.freshHandle ⟨payload, []⟩) (scene.withNode ⟨payload, []⟩) := rfl

theorem run_create (scene : Scene) (name : String) (bag : Props) :
    (create name bag).run scene = .ok (scene.freshHandle ⟨.create name bag, []⟩)
      (scene.withNode ⟨.create name bag, []⟩) := rfl

theorem run_createText (scene : Scene) (content : String) :
    (createText content).run scene = .error (.bareText content) scene := rfl

theorem run_node {node : Node} (found : scene.nodes.get? handle = some node) :
    (Edit.node handle).run scene = .ok node scene := by
  simp only [Edit.node, EStateM.run_bind, EStateM.run_get, found]
  rfl

theorem run_node_of_dead (dead : ¬ scene.contains handle) :
    (Edit.node handle).run scene = .error (.unknownNode handle) scene := by
  simp only [Edit.node, EStateM.run_bind, EStateM.run_get, Arena.get?_eq_none_iff.mpr dead]
  rfl

/-- An update of a live node changes its payload and keeps its list. -/
theorem run_update {payload : Payload} {children : List Handle}
    (found : scene.nodes.get? handle = some ⟨payload, children⟩) (bag : Props) :
    (update handle bag).run scene =
      .ok () (scene.setNode handle ⟨payload.update bag, children⟩) := by
  simp only [update, EStateM.run_bind, run_node found, EStateM.run_modify]

theorem run_update_of_dead (dead : ¬ scene.contains handle) (bag : Props) :
    (update handle bag).run scene = .error (.unknownNode handle) scene := by
  simp only [update, EStateM.run_bind, run_node_of_dead dead]

/-! ### Lists -/

theorem run_ensureLive (live : scene.contains handle) :
    (ensureLive handle).run scene = .ok () scene := by
  simp only [ensureLive, EStateM.run_bind, EStateM.run_get, live, if_true]
  rfl

theorem run_ensureLive_of_dead (dead : ¬ scene.contains handle) :
    (ensureLive handle).run scene = .error (.unknownNode handle) scene := by
  simp only [ensureLive, EStateM.run_bind, EStateM.run_get, dead]
  rfl

/-- Where there is a list, it is replaced by what is made of it. -/
theorem run_relist (found : scene.list? site = some list)
    (change : List Handle → List Handle) :
    (relist site change).run scene = .ok () (scene.setList site (change list)) := by
  have read : (Edit.list site).run scene = .ok list scene := by
    simp only [Edit.list, EStateM.run_bind, EStateM.run_get, found]
    rfl
  simp only [relist, EStateM.run_bind, read, EStateM.run_modify]

/-- Under a dead handle there is no list to be replaced. -/
theorem run_relist_of_dead (dead : ¬ scene.contains handle)
    (change : List Handle → List Handle) :
    (relist (.under handle) change).run scene = .error (.unknownNode handle) scene := by
  have missing : scene.list? (.under handle) = none := by
    rw [Scene.list?, Arena.get?_eq_none_iff.mpr dead, Option.map_none]
  have read : (Edit.list (.under handle)).run scene = .error (.unknownNode handle) scene := by
    simp only [Edit.list, EStateM.run_bind, EStateM.run_get, missing]
    rfl
  simp only [relist, EStateM.run_bind, read]

/-- A look at a live child changes nothing. -/
theorem run_ensureLive_relist (live : scene.contains child)
    (change : List Handle → List Handle) :
    (ensureLive child >>= fun _ => relist site change).run scene =
      (relist site change).run scene := by
  rw [EStateM.run_bind, run_ensureLive live]

theorem after_ensureLive_relist_of_live (live : scene.contains child)
    (change : List Handle → List Handle) :
    (ensureLive child >>= fun _ => relist site change).after scene =
      (relist site change).after scene := by
  rw [after, run_ensureLive_relist live, after]

/-- A dead child is refused before the list is looked at. -/
theorem run_ensureLive_relist_of_dead (dead : ¬ scene.contains child)
    (change : List Handle → List Handle) :
    (ensureLive child >>= fun _ => relist site change).run scene =
      .error (.unknownNode child) scene := by
  rw [EStateM.run_bind, run_ensureLive_of_dead dead]

theorem append_eq (site : Site) (child : Handle) :
    append site child = ensureLive child >>= fun _ => relist site (· ++ [child]) := rfl

theorem insertBefore_eq (site : Site) (child before : Handle) :
    insertBefore site child before =
      ensureLive child >>= fun _ => relist site (placeBefore child before) := rfl

theorem remove_eq (site : Site) (child : Handle) :
    remove site child = relist site (·.erase child) := rfl

/-- A live child comes at the end of a list that is there. -/
theorem run_append (live : scene.contains child) (found : scene.list? site = some list) :
    (append site child).run scene = .ok () (scene.setList site (list ++ [child])) := by
  rw [append_eq, run_ensureLive_relist live, run_relist found]

/-- A live child comes in front of another one of the list, or at its end. -/
theorem run_insertBefore (live : scene.contains child) (found : scene.list? site = some list)
    (before : Handle) :
    (insertBefore site child before).run scene =
      .ok () (scene.setList site (placeBefore child before list)) := by
  rw [insertBefore_eq, run_ensureLive_relist live, run_relist found]

/-- A child is taken out of a list that is there, whether it is in it or not. -/
theorem run_remove (found : scene.list? site = some list) (child : Handle) :
    (remove site child).run scene = .ok () (scene.setList site (list.erase child)) := by
  rw [remove_eq, run_relist found]

/-! ### The whole scene -/

theorem run_clear (scene : Scene) : clear.run scene = .ok () { scene with top := [] } := rfl

/-- Pruning never fails and tells how many nodes it has freed. -/
theorem run_prune (scene : Scene) :
    prune.run scene = .ok (scene.size - scene.pruned.size) scene.pruned := rfl

end Edit

end SolidScene
