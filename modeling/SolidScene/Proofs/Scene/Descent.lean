/-
This file follows the lists of a scene downwards. A node reaches another one if a
path of lists leads there; it is free of cycles if nothing that it reaches is below
itself. Edits do not look out for cycles, so what unfolds a scene ends only below
nodes that are free of them: each step down leaves a node behind that cannot be met
again, and a path has no more nodes than the scene.

What decreases on the way down is the number of live nodes below a handle, a finite
set that is only counted and never computed. The rest of the file compares two
scenes: they agree below a handle if all that it reaches is the same in both, and
then they have the same paths and the same cycles there. Two cases of this are met
all the time, a scene that keeps every node of another one, and a scene that keeps
the attached ones.
-/
import Mathlib.Data.Finset.Card
import Mathlib.Logic.Relation
import SolidScene.Proofs.Arena.Handles
import SolidScene.Scene.Basic

namespace SolidScene

namespace Scene

/-! ### Paths -/

/-- One node stands in the list of another. -/
def IsChild (scene : Scene) (parent child : Handle) : Prop := child ∈ scene.children parent

/-- A path of any length leads from one node down to another. -/
def Reaches (scene : Scene) : Handle → Handle → Prop := Relation.ReflTransGen scene.IsChild

/-- A path of at least one step leads from one node down to another. -/
def IsAbove (scene : Scene) : Handle → Handle → Prop := Relation.TransGen scene.IsChild

/-- A node can be reached from the top. -/
def IsAttached (scene : Scene) (handle : Handle) : Prop :=
  ∃ root ∈ scene.top, scene.Reaches root handle

/-- No path from a node leads into a cycle. -/
def IsAcyclicFrom (scene : Scene) (handle : Handle) : Prop :=
  ∀ other, scene.Reaches handle other → ¬ scene.IsAbove other other

/-- No path from the top leads into a cycle. -/
def IsAcyclic (scene : Scene) : Prop := ∀ root ∈ scene.top, scene.IsAcyclicFrom root

theorem children_of_get? {scene : Scene} {handle : Handle} {node : Node}
    (found : scene.nodes.get? handle = some node) : scene.children handle = node.children := by
  rw [children, found, Option.map_some, Option.getD_some]

/-- Only live nodes have children. -/
theorem IsChild.exists_node {scene : Scene} {parent child : Handle}
    (step : scene.IsChild parent child) :
    ∃ node, scene.nodes.get? parent = some node ∧ child ∈ node.children := by
  unfold IsChild children at step
  cases found : scene.nodes.get? parent with
  | none => simp [found] at step
  | some node => exact ⟨node, rfl, by simpa [found] using step⟩

/-- A child of a node stands in the node's list. -/
theorem isChild_iff {scene : Scene} {parent child : Handle} {node : Node}
    (found : scene.nodes.get? parent = some node) :
    scene.IsChild parent child ↔ child ∈ node.children := by
  rw [IsChild, children_of_get? found]

theorem IsAcyclicFrom.of_reaches {scene : Scene} {handle other : Handle}
    (acyclic : scene.IsAcyclicFrom handle) (path : scene.Reaches handle other) :
    scene.IsAcyclicFrom other :=
  fun further rest => acyclic further (path.trans rest)

/-! ### Scenes without dangling handles -/

/-- Every handle in a list of the scene is live. -/
structure IsClosed (scene : Scene) : Prop where
  /-- The handles at the top are live. -/
  top_live : ∀ handle ∈ scene.top, scene.contains handle
  /-- So are the children of every node. -/
  child_live : ∀ parent child, scene.IsChild parent child → scene.contains child

/-- What a live node reaches is live, if no handle dangles. -/
theorem IsClosed.live_of_reaches {scene : Scene} (closed : scene.IsClosed)
    {handle other : Handle} (live : scene.contains handle) (path : scene.Reaches handle other) :
    scene.contains other := by
  induction path with
  | refl => exact live
  | tail _ step _ => exact closed.child_live _ _ step

/-! ### What is below a node -/

open Classical in
/-- The live nodes below a node, without the node itself unless it is below itself. -/
noncomputable def below (scene : Scene) (handle : Handle) : Finset Handle :=
  scene.nodes.handles.toFinset.filter (scene.IsAbove handle)

theorem mem_below {scene : Scene} {handle other : Handle} :
    other ∈ scene.below handle ↔ scene.contains other ∧ scene.IsAbove handle other := by
  classical
  rw [below, Finset.mem_filter, List.mem_toFinset, Arena.mem_handles_iff, contains]

/-- Without cycles less is below a child than below its parent. -/
theorem card_below_lt_of_isChild {scene : Scene} {parent child : Handle}
    (acyclic : ¬ scene.IsAbove child child) (step : scene.IsChild parent child)
    (live : scene.contains child) :
    (scene.below child).card < (scene.below parent).card := by
  refine Finset.card_lt_card (Finset.ssubset_iff_of_subset ?_ |>.mpr ?_)
  · intro other member
    rw [mem_below] at member ⊢
    exact ⟨member.1, Relation.TransGen.head step member.2⟩
  · exact ⟨child, mem_below.mpr ⟨live, Relation.TransGen.single step⟩,
      fun member => acyclic (mem_below.mp member).2⟩

/-- Without cycles less is below a live node than there is in the scene. -/
theorem card_below_lt_size {scene : Scene} {handle : Handle}
    (acyclic : ¬ scene.IsAbove handle handle) (live : scene.contains handle) :
    (scene.below handle).card < scene.size := by
  have all : scene.nodes.handles.toFinset.card = scene.size :=
    List.toFinset_card_of_nodup scene.nodes.handles_nodup
  rw [← all]
  refine Finset.card_lt_card (Finset.ssubset_iff_of_subset ?_ |>.mpr ?_)
  · intro other member
    exact List.mem_toFinset.mpr (Arena.mem_handles_iff.mpr (mem_below.mp member).1)
  · exact ⟨handle, List.mem_toFinset.mpr (Arena.mem_handles_iff.mpr live),
      fun member => acyclic (mem_below.mp member).2⟩

/-! ### Scenes that agree with others -/

/-- One scene has the nodes of another below a handle, and no others there. -/
def AgreesBelow (after before : Scene) (handle : Handle) : Prop :=
  ∀ other, before.Reaches handle other → after.nodes.get? other = before.nodes.get? other

/-- One scene keeps the nodes of another, each with its payload and its children. -/
def KeepsNodesOf (after before : Scene) : Prop :=
  ∀ handle node, before.nodes.get? handle = some node → after.nodes.get? handle = some node

theorem AgreesBelow.of_isChild {before after : Scene} {parent child : Handle}
    (agrees : after.AgreesBelow before parent) (step : before.IsChild parent child) :
    after.AgreesBelow before child :=
  fun other path => agrees other (Relation.ReflTransGen.head step path)

theorem AgreesBelow.isChild_iff {before after : Scene} {handle parent child : Handle}
    (agrees : after.AgreesBelow before handle) (path : before.Reaches handle parent) :
    after.IsChild parent child ↔ before.IsChild parent child := by
  rw [IsChild, IsChild, children, children, agrees parent path]

/-- Where two scenes agree they have the same paths. -/
theorem AgreesBelow.reaches_iff {before after : Scene} {handle other : Handle}
    (agrees : after.AgreesBelow before handle) :
    after.Reaches handle other ↔ before.Reaches handle other := by
  constructor
  · intro path
    induction path with
    | refl => exact Relation.ReflTransGen.refl
    | tail _ step inductionHypothesis =>
      exact inductionHypothesis.tail ((agrees.isChild_iff inductionHypothesis).mp step)
  · intro path
    induction path with
    | refl => exact Relation.ReflTransGen.refl
    | tail earlier step inductionHypothesis =>
      exact inductionHypothesis.tail ((agrees.isChild_iff earlier).mpr step)

/-- Where two scenes agree they have the same cycles. -/
theorem AgreesBelow.isAcyclicFrom {before after : Scene} {handle : Handle}
    (agrees : after.AgreesBelow before handle) (acyclic : before.IsAcyclicFrom handle) :
    after.IsAcyclicFrom handle := by
  intro other path cycle
  have pathBefore := agrees.reaches_iff.mp path
  have agreesOther : after.AgreesBelow before other :=
    fun further rest => agrees further (pathBefore.trans rest)
  obtain ⟨child, step, back⟩ := Relation.TransGen.head'_iff.mp cycle
  have stepBefore := (agrees.isChild_iff pathBefore).mp step
  have backBefore := (agreesOther.of_isChild stepBefore).reaches_iff.mp back
  exact acyclic other pathBefore (Relation.TransGen.head' stepBefore backBefore)

theorem KeepsNodesOf.refl (scene : Scene) : scene.KeepsNodesOf scene := fun _ _ found => found

theorem KeepsNodesOf.trans {before between after : Scene} (second : after.KeepsNodesOf between)
    (first : between.KeepsNodesOf before) : after.KeepsNodesOf before :=
  fun handle node found => second handle node (first handle node found)

/-- One scene has the list at the top of another, and every attached node of it as it was. -/
structure KeepsAttached (after before : Scene) : Prop where
  /-- The list at the top is the same. -/
  top_eq : after.top = before.top
  /-- The attached handles find the same nodes. -/
  get?_eq : ∀ handle, before.IsAttached handle →
    after.nodes.get? handle = before.nodes.get? handle

theorem KeepsAttached.refl (scene : Scene) : scene.KeepsAttached scene := ⟨rfl, fun _ _ => rfl⟩

/-- Scenes with the same attached nodes agree below each node at the top. -/
theorem KeepsAttached.agreesBelow {before after : Scene} (keeps : after.KeepsAttached before)
    {root : Handle} (member : root ∈ before.top) : after.AgreesBelow before root :=
  fun other path => keeps.get?_eq other ⟨root, member, path⟩

theorem KeepsNodesOf.contains {before after : Scene} (keeps : after.KeepsNodesOf before)
    {handle : Handle} (live : before.contains handle) : after.contains handle := by
  obtain ⟨node, found⟩ := Arena.contains_iff.mp live
  exact Arena.contains_of_get? (keeps handle node found)

/-- Below a live node of a scene without dangling handles, to keep the nodes is to agree. -/
theorem KeepsNodesOf.agreesBelow {before after : Scene} (keeps : after.KeepsNodesOf before)
    (closed : before.IsClosed) {handle : Handle} (live : before.contains handle) :
    after.AgreesBelow before handle := by
  intro other path
  obtain ⟨node, found⟩ := Arena.contains_iff.mp (closed.live_of_reaches live path)
  rw [found, keeps other node found]

/-- Where no handle dangles the attached nodes are live, so it is enough to keep the live nodes. -/
theorem KeepsNodesOf.keepsAttached {before after : Scene} (keeps : after.KeepsNodesOf before)
    (closed : before.IsClosed) (top : after.top = before.top) : after.KeepsAttached before where
  top_eq := top
  get?_eq := by
    rintro handle ⟨root, member, path⟩
    exact keeps.agreesBelow closed (closed.top_live root member) handle path

end Scene

end SolidScene
