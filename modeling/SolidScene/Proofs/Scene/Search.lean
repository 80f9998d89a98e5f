/-
This file is about the search that pruning relies on. The search finds nothing but
what paths lead to, and what it has found is closed under going down; so it finds
exactly the live nodes that can be reached from the top, whether the lists share
nodes or run in circles.

The first half is easy: whatever the search finds was pending or stood in the list
of something found. For the second half the induction follows the search itself,
with two facts that support each other: what is pending is found, if it may still
be found, and the children of everything found are found as well, unless they were
found before. The rest of the file restates this for the scene that is left: its
nodes, its size and its paths are those of the attached part, and pruning once more
changes nothing.
-/
import SolidScene.Proofs.Scene.Descent
import SolidScene.Scene.Prune

namespace SolidScene

/-! ### The search -/

/-- What the search finds was to be found, and a path from what is pending leads to it. -/
theorem of_mem_gather {next : Handle → List Handle} {remaining pending : List Handle}
    {handle : Handle} (found : handle ∈ gather next remaining pending) :
    handle ∈ remaining ∧
      ∃ start ∈ pending,
        Relation.ReflTransGen (fun parent child => child ∈ next parent) start handle := by
  fun_induction gather next remaining pending with
  | case1 remaining => exact absurd found List.not_mem_nil
  | case2 remaining first rest present inductionHypothesis =>
    rcases List.mem_cons.mp found with rfl | later
    · exact ⟨present, handle, List.mem_cons_self, Relation.ReflTransGen.refl⟩
    · obtain ⟨member, start, startMember, path⟩ := inductionHypothesis later
      refine ⟨List.mem_of_mem_erase member, ?_⟩
      rcases List.mem_append.mp startMember with child | waiting
      · exact ⟨first, List.mem_cons_self, Relation.ReflTransGen.head child path⟩
      · exact ⟨start, List.mem_cons_of_mem _ waiting, path⟩
  | case3 remaining first rest absent inductionHypothesis =>
    obtain ⟨member, start, startMember, path⟩ := inductionHypothesis found
    exact ⟨member, start, List.mem_cons_of_mem _ startMember, path⟩

/-- The search finds what is pending, and with each node the nodes in its list, as far as they
were to be found. The two parts go through only together: a child that is met later waits
among the pending ones. -/
theorem gather_closed (next : Handle → List Handle) (remaining pending : List Handle) :
    (∀ handle ∈ pending, handle ∈ remaining → handle ∈ gather next remaining pending) ∧
      ∀ parent ∈ gather next remaining pending, ∀ child ∈ next parent, child ∈ remaining →
        child ∈ gather next remaining pending := by
  fun_induction gather next remaining pending with
  | case1 remaining =>
    exact ⟨fun _ member => absurd member List.not_mem_nil,
      fun _ member => absurd member List.not_mem_nil⟩
  | case2 remaining first rest present inductionHypothesis =>
    obtain ⟨waitingFound, childFound⟩ := inductionHypothesis
    -- What is still to be found stays so unless it is the node that was just found.
    have later (handle : Handle) (member : handle ∈ remaining)
        (further : handle ∈ remaining.erase first →
          handle ∈ gather next (remaining.erase first) (next first ++ rest)) :
        handle ∈ first :: gather next (remaining.erase first) (next first ++ rest) := by
      by_cases same : handle = first
      · exact same ▸ List.mem_cons_self
      · exact List.mem_cons_of_mem _ (further ((List.mem_erase_of_ne same).mpr member))
    constructor
    · intro handle pendingMember member
      rcases List.mem_cons.mp pendingMember with rfl | waiting
      · exact List.mem_cons_self
      · exact later handle member (waitingFound handle (List.mem_append_right _ waiting))
    · intro parent parentFound child step member
      rcases List.mem_cons.mp parentFound with rfl | parentLater
      · exact later child member (waitingFound child (List.mem_append_left _ step))
      · exact later child member (childFound parent parentLater child step)
  | case3 remaining first rest absent inductionHypothesis =>
    refine ⟨fun handle pendingMember member => ?_, inductionHypothesis.2⟩
    rcases List.mem_cons.mp pendingMember with rfl | waiting
    · exact absurd member absent
    · exact inductionHypothesis.1 handle waiting member

namespace Scene

/-- The search finds exactly the live nodes that can be reached from the top. -/
theorem mem_reachable_iff {scene : Scene} {handle : Handle} :
    handle ∈ scene.reachable ↔ scene.contains handle ∧ scene.IsAttached handle := by
  constructor
  · intro found
    obtain ⟨member, start, startMember, path⟩ := of_mem_gather found
    exact ⟨Arena.mem_handles_iff.mp member, start, startMember, path⟩
  · rintro ⟨live, root, rootMember, path⟩
    obtain ⟨rootFound, childFound⟩ :=
      gather_closed scene.children scene.nodes.handles scene.top
    -- Only live nodes have children, so all nodes on the path were to be found.
    induction path with
    | refl => exact rootFound root rootMember (Arena.mem_handles_iff.mpr live)
    | tail earlier step inductionHypothesis =>
      obtain ⟨node, found, _⟩ := step.exists_node
      exact childFound _ (inductionHypothesis (Arena.contains_of_get? found)) _ step
        (Arena.mem_handles_iff.mpr live)

/-! ### The scene that is left -/

/-- A node is left with its payload and its children if it was attached. -/
theorem get?_pruned_of_isAttached {scene : Scene} {handle : Handle}
    (attached : scene.IsAttached handle) :
    scene.pruned.nodes.get? handle = scene.nodes.get? handle := by
  rw [pruned, Arena.get?_retain]
  split
  case isTrue => rfl
  case isFalse gone =>
    rw [List.contains_iff_mem, mem_reachable_iff] at gone
    exact (Arena.get?_eq_none_iff.mpr fun live => gone ⟨live, attached⟩).symm

/-- What is left are the live nodes that are attached. -/
theorem contains_pruned_iff {scene : Scene} {handle : Handle} :
    scene.pruned.contains handle ↔ scene.contains handle ∧ scene.IsAttached handle := by
  rw [pruned, contains, Arena.contains_retain_iff, List.contains_iff_mem, mem_reachable_iff]
  exact ⟨fun left => left.2, fun stays => ⟨stays.1, stays⟩⟩

@[simp] theorem top_pruned (scene : Scene) : scene.pruned.top = scene.top := rfl

theorem size_pruned_le (scene : Scene) : scene.pruned.size ≤ scene.size :=
  Arena.size_retain_le _ _

theorem isAttached_of_mem_top {scene : Scene} {root : Handle} (member : root ∈ scene.top) :
    scene.IsAttached root := ⟨root, member, Relation.ReflTransGen.refl⟩

/-- What is in the list of an attached node is attached. -/
theorem IsAttached.of_isChild {scene : Scene} {parent child : Handle}
    (attached : scene.IsAttached parent) (step : scene.IsChild parent child) :
    scene.IsAttached child := by
  obtain ⟨root, member, path⟩ := attached
  exact ⟨root, member, path.tail step⟩

/-- Pruning keeps what is attached, and the top. -/
theorem keepsAttached_pruned (scene : Scene) : scene.pruned.KeepsAttached scene :=
  ⟨rfl, fun _ attached => get?_pruned_of_isAttached attached⟩

/-- Below an attached node nothing changes. -/
theorem pruned_agreesBelow {scene : Scene} {handle : Handle}
    (attached : scene.IsAttached handle) : scene.pruned.AgreesBelow scene handle := by
  obtain ⟨root, member, path⟩ := attached
  exact fun other rest => get?_pruned_of_isAttached ⟨root, member, path.trans rest⟩

/-- The same nodes are attached as before. -/
theorem isAttached_pruned_iff {scene : Scene} {handle : Handle} :
    scene.pruned.IsAttached handle ↔ scene.IsAttached handle := by
  constructor
  · rintro ⟨root, member, path⟩
    have attached : scene.IsAttached root := isAttached_of_mem_top member
    exact ⟨root, member, (pruned_agreesBelow attached).reaches_iff.mp path⟩
  · rintro ⟨root, member, path⟩
    have attached : scene.IsAttached root := isAttached_of_mem_top member
    exact ⟨root, member, (pruned_agreesBelow attached).reaches_iff.mpr path⟩

/-- Pruning leaves no dangling handle in a list of what is left. -/
theorem IsClosed.pruned {scene : Scene} (closed : scene.IsClosed) : scene.pruned.IsClosed where
  top_live handle member :=
    contains_pruned_iff.mpr ⟨closed.top_live handle member, isAttached_of_mem_top member⟩
  child_live parent child step := by
    obtain ⟨node, found, _⟩ := step.exists_node
    have attached := (contains_pruned_iff.mp (Arena.contains_of_get? found)).2
    have before : scene.IsChild parent child :=
      ((pruned_agreesBelow attached).isChild_iff Relation.ReflTransGen.refl).mp step
    exact contains_pruned_iff.mpr
      ⟨closed.child_live parent child before, attached.of_isChild before⟩

/-- Freeing nodes a second time frees none, and leaves the vacant slots in their order. -/
theorem pruned_pruned (scene : Scene) : scene.pruned.pruned = scene.pruned := by
  have all (handle : Handle) (live : scene.pruned.nodes.contains handle) :
      scene.pruned.reachable.contains handle := by
    have attached := (contains_pruned_iff.mp live).2
    exact List.contains_iff_mem.mpr
      (mem_reachable_iff.mpr ⟨live, isAttached_pruned_iff.mpr attached⟩)
  have nodes : scene.pruned.pruned.nodes = scene.pruned.nodes := Arena.retain_eq_self all
  show Scene.mk scene.pruned.pruned.nodes scene.pruned.top = scene.pruned
  rw [nodes]

end Scene

end SolidScene
