/-
This file follows a scene that grows: new nodes appear below new handles, and the
nodes that were there before stay out of reach from those. Copies grow this way from
the leaves up, and so do mounted documents once their lists are filled; what grows
after something else leaves it as it is.

To grow by some roots means that the roots unfold to given solids and reach nothing
that was live before. It is stable under what comes later: a later scene may change
the nodes of before, but as it keeps the new ones, the roots unfold there to the
same solids. So what grew first can be put next to what grew later, and a new node
over the roots of both has grown as well. A copy is this together with the facts
that nothing old has changed and that as many nodes were added as the solids have.
-/
import SolidScene.Proofs.Scene.Outcome
import SolidScene.Proofs.Scene.Unfolding

namespace SolidScene

namespace Scene

/-- One scene grows out of another by the solids of some roots: the roots unfold to the solids,
and nothing that they reach was live before. -/
structure Grows (before after : Scene) (roots : List Handle) (solids : List Solid) : Prop where
  /-- The roots have the solids. -/
  unfolds : List.Forall₂ after.Unfolds roots solids
  /-- Whatever a root reaches is new. -/
  fresh : ∀ root ∈ roots, ∀ other, after.Reaches root other → ¬ before.contains other
  /-- The nodes of before are still there. -/
  live : ∀ handle, before.contains handle → after.contains handle
  /-- No handle dangles. -/
  closed : after.IsClosed

theorem Grows.nil {scene : Scene} (closed : scene.IsClosed) : scene.Grows scene [] [] where
  unfolds := List.Forall₂.nil
  fresh _ member := absurd member List.not_mem_nil
  live _ live := live
  closed := closed

theorem Grows.live_of_mem {before after : Scene} {roots : List Handle} {solids : List Solid}
    (grows : before.Grows after roots solids) {root : Handle} (member : root ∈ roots) :
    after.contains root := by
  obtain ⟨solid, _, unfolds⟩ := exists_mem_of_forall₂ grows.unfolds member
  exact unfolds.live

/-- What has grown is left alone by a change that keeps the nodes that are new. -/
theorem Grows.agreesBelow {before between after : Scene} {roots : List Handle}
    {solids : List Solid} (grows : before.Grows between roots solids)
    (keeps : ∀ handle node, ¬ before.contains handle →
      between.nodes.get? handle = some node → after.nodes.get? handle = some node)
    {root : Handle} (member : root ∈ roots) : after.AgreesBelow between root := by
  intro other path
  obtain ⟨node, found⟩ := Arena.contains_iff.mp
    (grows.closed.live_of_reaches (grows.live_of_mem member) path)
  rw [found, keeps other node (grows.fresh root member other path) found]

/-- What has grown stays in a later scene. That scene may have changed a list of a node that was
there before, but no node that is new. -/
theorem Grows.later {before between after : Scene} {roots : List Handle} {solids : List Solid}
    (grows : before.Grows between roots solids)
    (keeps : ∀ handle node, ¬ before.contains handle →
      between.nodes.get? handle = some node → after.nodes.get? handle = some node)
    (live : ∀ handle, between.contains handle → after.contains handle)
    (closed : after.IsClosed) : before.Grows after roots solids where
  unfolds := unfolds_of_agreesBelow grows.unfolds fun _ member => grows.agreesBelow keeps member
  fresh root member other path :=
    grows.fresh root member other ((grows.agreesBelow keeps member).reaches_iff.mp path)
  live handle old := live handle (grows.live handle old)
  closed := closed

/-- A scene that has grown grows further. -/
theorem Grows.append {before between after : Scene} {roots others : List Handle}
    {solids rest : List Solid} (first : before.Grows between roots solids)
    (second : between.Grows after others rest)
    (keeps : ∀ handle node, ¬ before.contains handle →
      between.nodes.get? handle = some node → after.nodes.get? handle = some node) :
    before.Grows after (roots ++ others) (solids ++ rest) := by
  have early : before.Grows after roots solids := first.later keeps second.live second.closed
  refine ⟨List.rel_append early.unfolds second.unfolds, ?_, early.live, second.closed⟩
  intro root member other path
  rcases List.mem_append.mp member with earlyMember | lateMember
  · exact early.fresh root earlyMember other path
  · exact fun live => second.fresh root lateMember other path (first.live other live)

/-- A new node over what has grown has grown as well. It may itself be there already in the scene
that its children grew out of. -/
theorem Grows.over {before lower after : Scene} {roots : List Handle} {solids : List Solid}
    (grows : lower.Grows after roots solids)
    (earlier : ∀ handle, before.contains handle → lower.contains handle) {handle : Handle}
    {payload : Payload} (found : after.nodes.get? handle = some ⟨payload, roots⟩)
    (fresh : ¬ before.contains handle) :
    before.Grows after [handle] [.node payload solids] where
  unfolds := List.Forall₂.cons (Unfolds.node found grows.unfolds) List.Forall₂.nil
  fresh root member other path := by
    rw [List.mem_singleton.mp member] at path
    rcases Relation.ReflTransGen.cases_head path with rfl | ⟨child, step, rest⟩
    · exact fresh
    · exact fun live =>
        grows.fresh child ((isChild_iff found).mp step) other rest (earlier other live)
  live other live := grows.live other (earlier other live)
  closed := grows.closed

/-- A new node over the roots of what has grown. -/
theorem Grows.withNode {before between : Scene} {roots : List Handle} {solids : List Solid}
    (grows : before.Grows between roots solids) (payload : Payload) :
    before.Grows (between.withNode ⟨payload, roots⟩) [between.freshHandle ⟨payload, roots⟩]
      [.node payload solids] := by
  have keeps := keepsNodesOf_withNode between ⟨payload, roots⟩
  have below : before.Grows (between.withNode ⟨payload, roots⟩) roots solids :=
    grows.later (fun handle node _ found => keeps handle node found)
      (fun _ live => keeps.contains live)
      (grows.closed.withNode fun _ member => grows.live_of_mem member)
  exact below.over (fun _ live => live) (get?_withNode_self between _)
    fun live => not_contains_freshHandle _ _ (grows.live _ live)

end Scene

/-! ### Copies -/

/-- A copy of several nodes: the copies unfold like the nodes, they share no node with what was
there before, and everything that was there before stays. -/
structure Scene.IsCopy (before after : Scene) (copies : List Handle) (solids : List Solid) :
    Prop where
  grows : before.Grows after copies solids
  /-- The nodes of before are as they were. -/
  keeps : after.KeepsNodesOf before
  top_eq : after.top = before.top
  /-- A node is added for each time that one occurs below the nodes. -/
  size_eq : after.size = before.size + Solid.countAll solids

/-- Of no nodes there is a copy with nothing in it. -/
theorem Scene.IsCopy.nil {scene : Scene} (closed : scene.IsClosed) :
    scene.IsCopy scene [] [] :=
  ⟨Grows.nil closed, KeepsNodesOf.refl scene, rfl, rfl⟩

theorem Scene.IsCopy.append {before between after : Scene} {copies others : List Handle}
    {solids rest : List Solid} (first : before.IsCopy between copies solids)
    (second : between.IsCopy after others rest) :
    before.IsCopy after (copies ++ others) (solids ++ rest) where
  grows := first.grows.append second.grows fun handle node _ found =>
    second.keeps handle node found
  keeps := second.keeps.trans first.keeps
  top_eq := second.top_eq.trans first.top_eq
  size_eq := by rw [second.size_eq, first.size_eq, Solid.countAll_append, Nat.add_assoc]

/-- A node over copies of the children is a copy of the node. -/
theorem Scene.IsCopy.withNode {before between : Scene} {copies : List Handle}
    {solids : List Solid} (copy : before.IsCopy between copies solids) (payload : Payload) :
    before.IsCopy (between.withNode ⟨payload, copies⟩)
      [between.freshHandle ⟨payload, copies⟩] [.node payload solids] where
  grows := copy.grows.withNode payload
  keeps := (keepsNodesOf_withNode between _).trans copy.keeps
  top_eq := copy.top_eq
  size_eq := by
    rw [size_withNode, copy.size_eq, Solid.countAll, Solid.count, Solid.countAll]
    omega

namespace Edit

open Scene

/-- Copying a node succeeds if copying its children does. At depth zero the height leaves no room
for children. -/
theorem run_copyDown_of_children {depth : Nat} {scene : Scene} (closed : scene.IsClosed)
    {handle : Handle} {payload : Payload} {children : List Handle} {solids : List Solid}
    (found : scene.nodes.get? handle = some ⟨payload, children⟩)
    (enough : Solid.heightAll solids ≤ depth)
    (below : ∀ lower, depth = lower + 1 → ∃ copies between,
      (children.mapM (copyDown lower)).run scene = .ok copies between ∧
        scene.IsCopy between copies solids) :
    ∃ copy after, (copyDown depth handle).run scene = .ok copy after ∧
      scene.IsCopy after [copy] [.node payload solids] := by
  cases depth with
  | zero =>
    have leaf : solids = [] := Solid.eq_nil_of_heightAll (Nat.le_zero.mp enough)
    subst leaf
    refine ⟨_, _, ?_, (IsCopy.nil closed).withNode payload⟩
    rw [copyDown, EStateM.run_bind, run_node found]
    exact run_insert scene payload
  | succ depth =>
    obtain ⟨copies, between, run, copy⟩ := below depth rfl
    refine ⟨_, _, ?_, copy.withNode payload⟩
    rw [copyDown, EStateM.run_bind, run_node found]
    simp only [EStateM.run_bind, run]
    exact run_insertNode between ⟨payload, copies⟩

/-- Copying nodes one after the other succeeds and copies their solids, if the depth is not
below their height. The nodes unfold in an earlier scene, of which the one that is copied into
keeps the nodes: each copy goes into a scene that the copies before it have made. -/
theorem run_mapM_copyDown {source : Scene} {handles : List Handle} {solids : List Solid}
    (unfolds : List.Forall₂ source.Unfolds handles solids) {depth : Nat}
    (enough : Solid.heightAll solids ≤ depth + 1) {scene : Scene}
    (keeps : scene.KeepsNodesOf source) (closed : scene.IsClosed) :
    ∃ copies after, (handles.mapM (copyDown depth)).run scene = .ok copies after ∧
      scene.IsCopy after copies solids := by
  induction unfolds using unfolds_induction generalizing depth scene with
  | nil => exact ⟨[], scene, rfl, IsCopy.nil closed⟩
  | @cons handle payload children solids tail rest found below later belowHypothesis
      laterHypothesis =>
    simp only [Solid.heightAll, Solid.height] at enough
    have belowEnough : Solid.heightAll solids ≤ depth := by omega
    have laterEnough : Solid.heightAll rest ≤ depth + 1 := by omega
    obtain ⟨copy, between, run, isCopy⟩ := run_copyDown_of_children closed
      (keeps handle _ found) belowEnough fun lower _ => belowHypothesis (by omega) keeps closed
    obtain ⟨copies, after, laterRun, laterCopy⟩ :=
      laterHypothesis laterEnough (isCopy.keeps.trans keeps) isCopy.grows.closed
    refine ⟨copy :: copies, after, ?_, isCopy.append laterCopy⟩
    rw [List.mapM_cons, EStateM.run_bind, run]
    simp only [EStateM.run_bind, laterRun, EStateM.run_pure]

/-- Copying a node succeeds and copies its solid, if the depth is not below its height. -/
theorem run_copyDown {scene : Scene} (closed : scene.IsClosed) {handle : Handle} {solid : Solid}
    (unfolds : scene.Unfolds handle solid) {depth : Nat} (enough : solid.height ≤ depth + 1) :
    ∃ copy after, (copyDown depth handle).run scene = .ok copy after ∧
      scene.IsCopy after [copy] [solid] := by
  obtain ⟨payload, solids⟩ := solid
  obtain ⟨children, found, below⟩ := unfolds_node_iff.mp unfolds
  rw [Solid.height] at enough
  exact run_copyDown_of_children closed found (by omega) fun lower _ =>
    run_mapM_copyDown below (by omega) (KeepsNodesOf.refl scene) closed

/-- A node without a cycle below it is copied as a whole: the depth of the scene is enough. -/
theorem run_clone {scene : Scene} (closed : scene.IsClosed) {handle : Handle} {solid : Solid}
    (unfolds : scene.Unfolds handle solid) :
    ∃ copy after, (clone handle true).run scene = .ok copy after ∧
      scene.IsCopy after [copy] [solid] := by
  have enough : solid.height ≤ scene.size + 1 := by
    have height := heightAll_le_size (List.Forall₂.cons unfolds List.Forall₂.nil)
    simp only [Solid.heightAll] at height
    omega
  obtain ⟨copy, after, run, isCopy⟩ := run_copyDown closed unfolds enough
  refine ⟨copy, after, ?_, isCopy⟩
  simp only [clone, EStateM.run_bind, EStateM.run_get, if_true, run]

/-- A node is copied without its children in any case. -/
theorem run_clone_alone {scene : Scene} {handle : Handle} {node : Node}
    (found : scene.nodes.get? handle = some node) :
    (clone handle false).run scene = .ok (scene.freshHandle ⟨node.payload, []⟩)
      (scene.withNode ⟨node.payload, []⟩) := by
  simp only [clone, EStateM.run_bind, EStateM.run_get, Bool.false_eq_true, if_false, copyDown,
    run_node found, run_insert]

theorem run_copyDown_of_dead {scene : Scene} {handle : Handle} (dead : ¬ scene.contains handle)
    (depth : Nat) : (copyDown depth handle).run scene = .error (.unknownNode handle) scene := by
  cases depth <;> rw [copyDown, EStateM.run_bind, run_node_of_dead dead]

/-- A dead handle is not cloned, and the scene stays as it is. -/
theorem run_clone_of_dead {scene : Scene} {handle : Handle} (dead : ¬ scene.contains handle)
    (withChildren : Bool) :
    (clone handle withChildren).run scene = .error (.unknownNode handle) scene := by
  rw [clone, EStateM.run_bind, EStateM.run_get]
  exact run_copyDown_of_dead dead _

end Edit

end SolidScene
