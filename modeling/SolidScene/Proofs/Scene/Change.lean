/-
This file says what the three changes of a scene do to its nodes: adding a node,
replacing the node of a handle, and replacing a list. Each of them touches one node
or the list at the top and leaves all other nodes as they are. None of them leaves a
dangling handle behind, as long as the new list has none.

For each change there are the same few lemmas: how many nodes there are, which
handles are live, what is found under the handle that was changed and under the
others, which lists there are, and who is whose child. All that is said later about
operations goes through these, and a scene is not taken apart into its arena again.
The handle of a further node is named before the node is added, because the
statements about operations have to name it.
-/
import SolidScene.Proofs.Scene.Descent

namespace SolidScene

namespace Scene

/-! ### Adding a node -/

/-- The scene with one more node, in no list. -/
def withNode (scene : Scene) (node : Node) : Scene :=
  { scene with nodes := (scene.nodes.insert node).2 }

/-- The handle that a further node gets. -/
def freshHandle (scene : Scene) (node : Node) : Handle := (scene.nodes.insert node).1

@[simp] theorem size_withNode (scene : Scene) (node : Node) :
    (scene.withNode node).size = scene.size + 1 := Arena.size_insert scene.nodes node

@[simp] theorem get?_withNode_self (scene : Scene) (node : Node) :
    (scene.withNode node).nodes.get? (scene.freshHandle node) = some node :=
  Arena.get?_insert_self scene.nodes node

theorem get?_withNode_of_ne {scene : Scene} {node : Node} {handle : Handle}
    (different : handle ≠ scene.freshHandle node) :
    (scene.withNode node).nodes.get? handle = scene.nodes.get? handle :=
  Arena.get?_insert_of_ne different

/-- The handle of the new node has become live, and no other one. -/
theorem contains_withNode_iff {scene : Scene} {node : Node} {handle : Handle} :
    (scene.withNode node).contains handle ↔
      handle = scene.freshHandle node ∨ scene.contains handle :=
  Arena.contains_insert_iff

/-- The handle of a further node is not live before. -/
theorem not_contains_freshHandle (scene : Scene) (node : Node) :
    ¬ scene.contains (scene.freshHandle node) :=
  Arena.get?_eq_none_iff.mp (Arena.get?_insert_fresh scene.nodes node)

theorem ne_freshHandle {scene : Scene} {node : Node} {handle : Handle}
    (live : scene.contains handle) : handle ≠ scene.freshHandle node :=
  fun same => not_contains_freshHandle scene node (same ▸ live)

theorem keepsNodesOf_withNode (scene : Scene) (node : Node) :
    (scene.withNode node).KeepsNodesOf scene := by
  intro handle kept found
  rw [get?_withNode_of_ne (ne_freshHandle (Arena.contains_of_get? found)), found]

theorem payload?_withNode_of_some {scene : Scene} {handle : Handle} {payload : Payload}
    (found : scene.payload? handle = some payload) (node : Node) :
    (scene.withNode node).payload? handle = some payload := by
  obtain ⟨held, heldAt, rfl⟩ := Option.map_eq_some_iff.mp found
  rw [payload?, keepsNodesOf_withNode scene node handle held heldAt, Option.map_some]

theorem list?_withNode_of_some {scene : Scene} {site : Site} {list : List Handle}
    (found : scene.list? site = some list) (node : Node) :
    (scene.withNode node).list? site = some list := by
  cases site with
  | top => exact found
  | under parent =>
    obtain ⟨held, heldAt, rfl⟩ := Option.map_eq_some_iff.mp found
    rw [list?, keepsNodesOf_withNode scene node parent held heldAt, Option.map_some]

/-- The children of the new node are the only new ones. -/
theorem isChild_withNode_iff {scene : Scene} {node : Node} {parent child : Handle} :
    (scene.withNode node).IsChild parent child ↔
      parent = scene.freshHandle node ∧ child ∈ node.children ∨ scene.IsChild parent child := by
  by_cases same : parent = scene.freshHandle node
  · subst same
    have dead : scene.nodes.get? (scene.freshHandle node) = none :=
      Arena.get?_insert_fresh scene.nodes node
    rw [isChild_iff (get?_withNode_self scene node), IsChild, children, dead]
    simp
  · rw [IsChild, IsChild, children, children, get?_withNode_of_ne same]
    simp [same]

/-- A node over live nodes leaves no dangling handle. -/
theorem IsClosed.withNode {scene : Scene} (closed : scene.IsClosed) {node : Node}
    (live : ∀ child ∈ node.children, scene.contains child) :
    (scene.withNode node).IsClosed where
  top_live handle member :=
    (keepsNodesOf_withNode scene node).contains (closed.top_live handle member)
  child_live parent child step := by
    refine (keepsNodesOf_withNode scene node).contains ?_
    rcases isChild_withNode_iff.mp step with ⟨_, member⟩ | step
    · exact live child member
    · exact closed.child_live parent child step

/-! ### Replacing the node of a handle -/

@[simp] theorem size_setNode (scene : Scene) (handle : Handle) (node : Node) :
    (scene.setNode handle node).size = scene.size := Arena.size_set scene.nodes handle node

theorem contains_setNode_iff {scene : Scene} {changed handle : Handle} {node : Node} :
    (scene.setNode changed node).contains handle ↔ scene.contains handle :=
  Arena.contains_set_iff

theorem get?_setNode_self {scene : Scene} {handle : Handle} (live : scene.contains handle)
    (node : Node) : (scene.setNode handle node).nodes.get? handle = some node :=
  Arena.get?_set_self live node

/-- All other handles find what they found before the node was replaced. -/
theorem get?_setNode_of_ne {scene : Scene} {changed handle : Handle}
    (different : handle ≠ changed) (node : Node) :
    (scene.setNode changed node).nodes.get? handle = scene.nodes.get? handle :=
  Arena.get?_set_of_ne different node

theorem isChild_setNode_iff {scene : Scene} {changed parent child : Handle}
    (live : scene.contains changed) {node : Node} :
    (scene.setNode changed node).IsChild parent child ↔
      if parent = changed then child ∈ node.children else scene.IsChild parent child := by
  split
  case isTrue same => rw [same, isChild_iff (get?_setNode_self live node)]
  case isFalse different => rw [IsChild, IsChild, children, children, get?_setNode_of_ne different]

theorem IsClosed.setNode {scene : Scene} (closed : scene.IsClosed) {changed : Handle}
    (changedLive : scene.contains changed) {node : Node}
    (live : ∀ child ∈ node.children, scene.contains child) :
    (scene.setNode changed node).IsClosed where
  top_live handle member := contains_setNode_iff.mpr (closed.top_live handle member)
  child_live parent child step := by
    refine contains_setNode_iff.mpr ?_
    rw [isChild_setNode_iff changedLive] at step
    split at step
    · exact live child step
    · exact closed.child_live parent child step

/-! ### Replacing a list -/

/-- To replace the list under a node is to replace the node. -/
theorem setList_under {scene : Scene} {parent : Handle} {node : Node}
    (found : scene.nodes.get? parent = some node) (list : List Handle) :
    scene.setList (.under parent) list = scene.setNode parent { node with children := list } := by
  rw [setList, found]

theorem get?_of_payload?_of_list? {scene : Scene} {handle : Handle} {payload : Payload}
    {list : List Handle} (held : scene.payload? handle = some payload)
    (found : scene.list? (.under handle) = some list) :
    scene.nodes.get? handle = some ⟨payload, list⟩ := by
  obtain ⟨node, nodeAt, rfl⟩ := Option.map_eq_some_iff.mp held
  rw [list?, nodeAt, Option.map_some, Option.some.injEq] at found
  rw [nodeAt, ← found]

theorem exists_node_of_list? {scene : Scene} {parent : Handle} {list : List Handle}
    (found : scene.list? (.under parent) = some list) :
    ∃ payload, scene.nodes.get? parent = some ⟨payload, list⟩ := by
  obtain ⟨⟨payload, children⟩, held, rfl⟩ := Option.map_eq_some_iff.mp found
  exact ⟨payload, held⟩

@[simp] theorem size_setList (scene : Scene) (site : Site) (list : List Handle) :
    (scene.setList site list).size = scene.size := by
  cases site with
  | top => rfl
  | under parent =>
    rw [setList]
    split
    · exact size_setNode scene parent _
    · rfl

theorem contains_setList_iff {scene : Scene} {site : Site} {list : List Handle}
    {handle : Handle} : (scene.setList site list).contains handle ↔ scene.contains handle := by
  cases site with
  | top => rfl
  | under parent =>
    rw [setList]
    split
    · exact contains_setNode_iff
    · rfl

theorem list?_setList_self {scene : Scene} {site : Site} {list : List Handle}
    (found : scene.list? site = some list) (other : List Handle) :
    (scene.setList site other).list? site = some other := by
  cases site with
  | top => rfl
  | under parent =>
    obtain ⟨payload, held⟩ := exists_node_of_list? found
    rw [setList_under held, list?, get?_setNode_self (Arena.contains_of_get? held),
      Option.map_some]

/-- A node that the list is not under stays as it is. -/
theorem get?_setList_of_ne {scene : Scene} {site : Site} {handle : Handle}
    (different : site ≠ .under handle) (list : List Handle) :
    (scene.setList site list).nodes.get? handle = scene.nodes.get? handle := by
  cases site with
  | top => rfl
  | under parent =>
    rw [setList]
    split
    · exact get?_setNode_of_ne (fun same : handle = parent => different (same ▸ rfl)) _
    · rfl

@[simp] theorem payload?_setList (scene : Scene) (site : Site) (list : List Handle)
    (handle : Handle) : (scene.setList site list).payload? handle = scene.payload? handle := by
  by_cases same : site = .under handle
  · subst same
    rw [setList]
    split
    case h_1 node found =>
      rw [payload?, payload?, get?_setNode_self (Arena.contains_of_get? found), found,
        Option.map_some, Option.map_some]
    case h_2 => rfl
  · rw [payload?, payload?, get?_setList_of_ne same]

theorem list?_setList_of_ne {scene : Scene} {site other : Site} (different : other ≠ site)
    (list : List Handle) : (scene.setList site list).list? other = scene.list? other := by
  cases other with
  | top =>
    cases site with
    | top => exact absurd rfl different
    | under parent =>
      rw [setList]
      split
      · rfl
      · rfl
  | under parent => rw [list?, list?, get?_setList_of_ne (Ne.symm different)]

/-- The members of the lists of a scene are live. -/
theorem IsClosed.live_of_list? {scene : Scene} (closed : scene.IsClosed) {site : Site}
    {list : List Handle} (found : scene.list? site = some list) {handle : Handle}
    (member : handle ∈ list) : scene.contains handle := by
  cases site with
  | top =>
    cases found
    exact closed.top_live handle member
  | under parent =>
    obtain ⟨payload, held⟩ := exists_node_of_list? found
    exact closed.child_live parent handle ((isChild_iff held).mpr member)

/-- A list of live handles leaves no dangling handle. -/
theorem IsClosed.setList {scene : Scene} (closed : scene.IsClosed) {site : Site}
    {list : List Handle} (live : ∀ handle ∈ list, scene.contains handle) :
    (scene.setList site list).IsClosed := by
  cases site with
  | top => exact ⟨live, closed.child_live⟩
  | under parent =>
    rw [Scene.setList]
    split
    case h_1 node found => exact closed.setNode (Arena.contains_of_get? found) live
    case h_2 => exact closed

end Scene

end SolidScene
