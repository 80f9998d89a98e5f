/-
This file says which scenes arise from the empty one by edits. The edits take any
handles, live or not, and may fail; the one thing asked for is that a node copied
with all that is below it is not above a cycle, since such a copy would have no end.
In every scene that arises this way no list holds a dangling handle.

An edit with its arguments becomes a value here, an operation, so that a run is a
list of them. What an operation leaves behind is a scene in any case, that of the
failure included; the answers and the faults are the subject of other files. The
invariant is proved for one operation and then holds of every scene that arises: a
handle enters a list only while it is live, and a node is freed only together with
all lists that it is in, as it cannot be reached.
-/
import Mathlib
import SolidScene.Proofs.Scene.Growth
import SolidScene.Proofs.Scene.Search

namespace SolidScene

/-- An edit with its arguments. -/
inductive Operation where
  | create (name : String) (bag : Props)
  | insert (payload : Payload)
  | createText (content : String)
  | update (handle : Handle) (bag : Props)
  | clone (handle : Handle) (withChildren : Bool)
  | append (site : Site) (child : Handle)
  | insertBefore (site : Site) (child before : Handle)
  | remove (site : Site) (child : Handle)
  | clear
  | prune

namespace Operation

/-- The scene that an operation leaves behind, whether it succeeds or fails. -/
def after (scene : Scene) : Operation → Scene
  | create name bag => (Edit.create name bag).after scene
  | insert payload => (Edit.insert payload).after scene
  | createText content => (Edit.createText content).after scene
  | update handle bag => (Edit.update handle bag).after scene
  | clone handle withChildren => (Edit.clone handle withChildren).after scene
  | append site child => (Edit.append site child).after scene
  | insertBefore site child before => (Edit.insertBefore site child before).after scene
  | remove site child => (Edit.remove site child).after scene
  | clear => Edit.clear.after scene
  | prune => Edit.prune.after scene

/-- Whether an operation ends: a copy of all that is below a node needs a node without a cycle
below it. -/
def IsAdmitted (scene : Scene) : Operation → Prop
  | clone handle true => scene.IsAcyclicFrom handle
  | _ => True

/-- The scene that several operations leave behind, one after the other. -/
def afterAll (scene : Scene) (operations : List Operation) : Scene :=
  operations.foldl after scene

end Operation

namespace Scene

/-- The scenes that arise from the empty one by operations. -/
inductive IsBuilt : Scene → Prop where
  | empty : IsBuilt Scene.empty
  /-- One more operation, which ends but may fail. -/
  | step {scene : Scene} (built : IsBuilt scene) (operation : Operation)
    (admitted : operation.IsAdmitted scene) : IsBuilt (operation.after scene)

/-! ### No operation leaves a dangling handle -/

theorem isClosed_empty : Scene.empty.IsClosed where
  top_live _ member := absurd member List.not_mem_nil
  child_live parent child step := by
    obtain ⟨node, found, _⟩ := step.exists_node
    exact absurd found (by simp [Scene.empty])

/-- Another list at a site leaves no dangling handle, if the new list has live handles only as
soon as the old one has. -/
theorem IsClosed.after_relist {scene : Scene} (closed : scene.IsClosed) (site : Site)
    {change : List Handle → List Handle}
    (live : ∀ list, (∀ handle ∈ list, scene.contains handle) →
      ∀ handle ∈ change list, scene.contains handle) :
    ((Edit.relist site change).after scene).IsClosed := by
  rcases scene.list?_cases site with ⟨list, found⟩ | ⟨parent, rfl, dead⟩
  · rw [Edit.after_of_ok (Edit.run_relist found change)]
    exact closed.setList (live list fun handle member => closed.live_of_list? found member)
  · rw [Edit.after_of_error (Edit.run_relist_of_dead dead change)]
    exact closed

/-- The same for the edits that bring a child into the list: they look whether it is live. -/
theorem IsClosed.after_ensureLive_relist {scene : Scene} (closed : scene.IsClosed) (site : Site)
    {child : Handle} {change : List Handle → List Handle}
    (only : ∀ list, ∀ handle ∈ change list, handle = child ∨ handle ∈ list) :
    ((Edit.ensureLive child >>= fun _ => Edit.relist site change).after scene).IsClosed := by
  by_cases live : scene.contains child
  · rw [Edit.after_ensureLive_relist_of_live live]
    refine closed.after_relist site fun list listLive handle member => ?_
    rcases only list handle member with rfl | old
    · exact live
    · exact listLive handle old
  · rw [Edit.after_of_error (Edit.run_ensureLive_relist_of_dead live change)]
    exact closed

theorem IsClosed.after_clone {scene : Scene} (closed : scene.IsClosed) {handle : Handle}
    {withChildren : Bool}
    (admitted : (Operation.clone handle withChildren).IsAdmitted scene) :
    ((Edit.clone handle withChildren).after scene).IsClosed := by
  by_cases live : scene.contains handle
  · cases withChildren with
    | false =>
      obtain ⟨node, found⟩ := Arena.contains_iff.mp live
      rw [Edit.after_of_ok (Edit.run_clone_alone found)]
      exact closed.withNode fun child member => absurd member List.not_mem_nil
    | true =>
      obtain ⟨solid, unfolds⟩ := exists_unfolds closed live admitted
      obtain ⟨copy, after, run, isCopy⟩ := Edit.run_clone closed unfolds
      rw [Edit.after_of_ok run]
      exact isCopy.grows.closed
  · rw [Edit.after_of_error (Edit.run_clone_of_dead live withChildren)]
    exact closed

theorem IsClosed.after_update {scene : Scene} (closed : scene.IsClosed) (handle : Handle)
    (bag : Props) : ((Edit.update handle bag).after scene).IsClosed := by
  by_cases live : scene.contains handle
  · obtain ⟨⟨payload, children⟩, found⟩ := Arena.contains_iff.mp live
    rw [Edit.after_of_ok (Edit.run_update found bag)]
    exact closed.setNode live fun child member =>
      closed.child_live handle child ((isChild_iff found).mpr member)
  · rw [Edit.after_of_error (Edit.run_update_of_dead live bag)]
    exact closed

/-- A list into which a child was put has no other new member. -/
theorem mem_placeBefore {child before handle : Handle} {list : List Handle}
    (member : handle ∈ placeBefore child before list) : handle = child ∨ handle ∈ list := by
  induction list with
  | nil => exact Or.inl (List.mem_singleton.mp member)
  | cons first rest inductionHypothesis =>
    rw [placeBefore] at member
    split at member
    · exact List.mem_cons.mp member
    · rcases List.mem_cons.mp member with rfl | later
      · exact Or.inr List.mem_cons_self
      · exact (inductionHypothesis later).imp_right (List.mem_cons_of_mem first)

/-- One operation leaves no dangling handle in a scene that has none. -/
theorem IsClosed.after {scene : Scene} (closed : scene.IsClosed) (operation : Operation)
    (admitted : operation.IsAdmitted scene) : (operation.after scene).IsClosed := by
  cases operation with
  | create name bag =>
    rw [Operation.after, Edit.after_of_ok (Edit.run_create scene name bag)]
    exact closed.withNode fun child member => absurd member List.not_mem_nil
  | insert payload =>
    rw [Operation.after, Edit.after_of_ok (Edit.run_insert scene payload)]
    exact closed.withNode fun child member => absurd member List.not_mem_nil
  | createText content =>
    rw [Operation.after, Edit.after_of_error (Edit.run_createText scene content)]
    exact closed
  | update handle bag => exact closed.after_update handle bag
  | clone handle withChildren => exact closed.after_clone admitted
  | append site child =>
    rw [Operation.after, Edit.append_eq]
    refine closed.after_ensureLive_relist site fun list handle member => ?_
    exact (List.mem_append.mp member).symm.imp_left List.mem_singleton.mp
  | insertBefore site child before =>
    rw [Operation.after, Edit.insertBefore_eq]
    exact closed.after_ensureLive_relist site fun list handle member => mem_placeBefore member
  | remove site child =>
    rw [Operation.after, Edit.remove_eq]
    exact closed.after_relist site fun list live handle member =>
      live handle (List.mem_of_mem_erase member)
  | clear =>
    rw [Operation.after, Edit.after_of_ok (Edit.run_clear scene)]
    exact ⟨fun _ member => absurd member List.not_mem_nil, closed.child_live⟩
  | prune =>
    rw [Operation.after, Edit.after_of_ok (Edit.run_prune scene)]
    exact closed.pruned

/-- No list of a scene that arises by operations holds a dangling handle. -/
theorem IsBuilt.isClosed {scene : Scene} (built : scene.IsBuilt) : scene.IsClosed := by
  induction built with
  | empty => exact isClosed_empty
  | step _ operation admitted inductionHypothesis =>
    exact inductionHypothesis.after operation admitted

/-- A run from a scene that arises by operations leads to another one. -/
theorem IsBuilt.afterAll {scene : Scene} (built : scene.IsBuilt) {operations : List Operation}
    (admitted : ∀ operation ∈ operations, ∀ other, operation.IsAdmitted other) :
    (Operation.afterAll scene operations).IsBuilt := by
  induction operations generalizing scene with
  | nil => exact built
  | cons operation rest inductionHypothesis =>
    exact inductionHypothesis (built.step operation (admitted operation List.mem_cons_self scene))
      fun later member => admitted later (List.mem_cons_of_mem _ member)

/-- No handle dangles in a scene that arises by operations: every handle in the list at the
top and in the list of a live node, attached or not, is live. -/
theorem live_of_isBuilt {scene : Scene} (built : scene.IsBuilt) :
    (∀ handle ∈ scene.top, scene.contains handle) ∧
      ∀ parent node, scene.nodes.get? parent = some node →
        ∀ child ∈ node.children, scene.contains child :=
  ⟨built.isClosed.top_live, fun parent _ found child member =>
    built.isClosed.child_live parent child ((isChild_iff found).mpr member)⟩

/-- A scene in which a node stands twice in the list of the one at the top, and another node in
no list. -/
def twins : Scene :=
  Operation.afterAll .empty [.insert .union, .insert .group, .insert .difference,
    .append (.under ⟨1, 1⟩) ⟨2, 1⟩, .insertBefore (.under ⟨1, 1⟩) ⟨2, 1⟩ ⟨2, 1⟩,
    .append .top ⟨1, 1⟩]

theorem isBuilt_twins : twins.IsBuilt := IsBuilt.empty.afterAll (by simp [Operation.IsAdmitted])

/-- The twins are two solids below the one at the top. -/
theorem unfolds_twins :
    twins.Unfolds ⟨1, 1⟩ (.node .union [.node .group [], .node .group []]) := by
  have child : twins.Unfolds ⟨2, 1⟩ (.node .group []) :=
    unfolds_node_iff.mpr ⟨[], by cbv, List.Forall₂.nil⟩
  exact unfolds_node_iff.mpr ⟨[⟨2, 1⟩, ⟨2, 1⟩], by cbv,
    List.Forall₂.cons child (List.Forall₂.cons child List.Forall₂.nil)⟩

/-- A scene with a circle of two nodes, which took the slots of two freed nodes, and with a node
that is in no list. The last operation fails, since its child is dead. -/
def circle : Scene :=
  Operation.afterAll .empty [.insert .union, .insert .group, .prune, .insert .union,
    .insert .group, .insert .difference, .append (.under ⟨2, 3⟩) ⟨1, 3⟩,
    .append (.under ⟨1, 3⟩) ⟨2, 3⟩, .append .top ⟨2, 3⟩, .append .top ⟨1, 1⟩]

/-- It arises by operations, none of which copies a cycle. -/
theorem isBuilt_circle : circle.IsBuilt :=
  IsBuilt.empty.afterAll (by simp [Operation.IsAdmitted])

/-- The circle holds its own root, in the slot of a node that was freed. -/
theorem live_of_isBuilt_circle :
    circle.IsBuilt ∧ circle.nodes.get? ⟨1, 3⟩ = some ⟨.group, [⟨2, 3⟩]⟩ ∧
      circle.contains ⟨2, 3⟩ := by
  have found : circle.nodes.get? ⟨1, 3⟩ = some ⟨.group, [⟨2, 3⟩]⟩ := by cbv
  exact ⟨isBuilt_circle, found,
    (live_of_isBuilt isBuilt_circle).2 ⟨1, 3⟩ _ found ⟨2, 3⟩ List.mem_cons_self⟩

end Scene

end SolidScene
