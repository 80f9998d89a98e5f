/-
This file is about scenes that are forests: every handle has at most one place in
all lists, and no node is below itself. Each change of a scene keeps a forest if
what it puts into a list had no place before and is not above that list. In a forest
every path down is shorter than the scene is large, so all that goes down along the
lists comes to an end.

One lemma serves for all changes that take something away: a scene in which every
handle has no more places and no node has more children is still a forest. For the
changes that add something the new paths are described: a node over loose roots is
above what they are above, and a child that goes into a list gives paths that do
without it or lead through it once. The last part is about copies. In a forest the
depth down to which a node is copied does not matter, as long as it is at least the
size of the forest.
-/
import SolidScene.Proofs.Scene.Effect
import SolidScene.Proofs.Scene.Occurrences

namespace SolidScene

/-- With one more step in a relation, a path either does without it, or it leads to the start of
the new step and on from its end. -/
theorem transGen_or_of_step {α : Type} {before after : α → α → Prop} {start finish : α}
    (steps : ∀ first second, after first second →
      before first second ∨ first = start ∧ second = finish)
    {source target : α} (path : Relation.TransGen after source target) :
    Relation.TransGen before source target ∨
      Relation.ReflTransGen before source start ∧ Relation.ReflTransGen before finish target := by
  induction path with
  | single step =>
    rcases steps _ _ step with old | ⟨rfl, rfl⟩
    · exact Or.inl (Relation.TransGen.single old)
    · exact Or.inr ⟨Relation.ReflTransGen.refl, Relation.ReflTransGen.refl⟩
  | tail _ step inductionHypothesis =>
    rcases steps _ _ step with old | ⟨rfl, rfl⟩
    · exact inductionHypothesis.imp (fun path => path.tail old)
        (fun ⟨front, rest⟩ => ⟨front, rest.tail old⟩)
    · -- The new step is taken last, so its end is where the path ends.
      have front := inductionHypothesis.elim (fun path => path.to_reflTransGen) (·.1)
      exact Or.inr ⟨front, Relation.ReflTransGen.refl⟩

namespace Scene

/-! ### Forests -/

/-- A scene is a forest: its lists hold live handles only, no handle has two places in all of
them, and no node is below itself. -/
structure IsForest (scene : Scene) : Prop where
  /-- No list holds a dangling handle. -/
  closed : scene.IsClosed
  /-- No handle has two places. -/
  single : ∀ handle, scene.occurrences handle ≤ 1
  /-- No node is below itself. -/
  acyclic : ∀ handle, ¬ scene.IsAbove handle handle

theorem isForest_empty : Scene.empty.IsForest where
  closed := isClosed_empty
  single handle := by
    rw [isClosed_empty.occurrences_of_dead (by simp [contains, Arena.contains, Scene.empty])]
    exact Nat.zero_le 1
  acyclic handle path := by
    obtain ⟨child, step, _⟩ := Relation.TransGen.head'_iff.mp path
    obtain ⟨node, found, _⟩ := step.exists_node
    exact absurd found (by simp [Scene.empty])

/-- A forest stays one where handles lose places and nodes lose children. -/
theorem IsForest.of_le {before after : Scene} (forest : before.IsForest)
    (closed : after.IsClosed)
    (fewer : ∀ handle, after.occurrences handle ≤ before.occurrences handle)
    (steps : ∀ parent child, after.IsChild parent child → before.IsChild parent child) :
    after.IsForest where
  closed := closed
  single handle := (fewer handle).trans (forest.single handle)
  acyclic handle path := forest.acyclic handle (Relation.TransGen.mono steps handle handle path)

/-! ### Nodes that are added -/

/-- Only what is below a new node gets a path from it. -/
theorem isAbove_of_isAbove_withNode {scene : Scene} (closed : scene.IsClosed) {node : Node}
    {handle other : Handle}
    (old : handle ≠ scene.freshHandle node)
    (path : (scene.withNode node).IsAbove handle other) : scene.IsAbove handle other := by
  have step {parent child : Handle} (old : parent ≠ scene.freshHandle node)
      (step : (scene.withNode node).IsChild parent child) : scene.IsChild parent child :=
    (isChild_withNode_iff.mp step).resolve_left fun new => old new.1
  induction path using Relation.TransGen.head_induction_on with
  | single last => exact Relation.TransGen.single (step old last)
  | head first _ inductionHypothesis =>
    have firstOld := step old first
    exact Relation.TransGen.head firstOld
      (inductionHypothesis (ne_freshHandle (closed.child_live _ _ firstOld)))

/-- A node may be added over live nodes that have no place yet. -/
theorem IsForest.withNode {scene : Scene} (forest : scene.IsForest) {node : Node}
    (live : ∀ child ∈ node.children, scene.contains child) (nodup : node.children.Nodup)
    (loose : ∀ child ∈ node.children, scene.occurrences child = 0) :
    (scene.withNode node).IsForest where
  closed := forest.closed.withNode live
  single handle := by
    rw [occurrences_withNode]
    by_cases member : handle ∈ node.children
    · rw [loose handle member, List.count_eq_one_of_mem nodup member]
    · rw [List.count_eq_zero.mpr member, Nat.zero_add]
      exact forest.single handle
  acyclic handle path := by
    by_cases fresh : handle = scene.freshHandle node
    · -- The new node is in no list, so no path leads to it.
      obtain ⟨parent, _, step⟩ := Relation.TransGen.tail'_iff.mp path
      rcases isChild_withNode_iff.mp step with ⟨_, member⟩ | old
      · exact ne_freshHandle (live handle member) fresh
      · exact ne_freshHandle (forest.closed.child_live _ _ old) fresh
    · exact forest.acyclic handle (isAbove_of_isAbove_withNode forest.closed fresh path)

theorem IsForest.withLeaf {scene : Scene} (forest : scene.IsForest) (payload : Payload) :
    (scene.withNode ⟨payload, []⟩).IsForest :=
  forest.withNode (fun _ member => absurd member List.not_mem_nil) List.nodup_nil
    (fun _ member => absurd member List.not_mem_nil)

/-- A forest to which trees were added: their roots have no place, and what was live before has
its places and no others. -/
structure IsPlanted (before after : Scene) (roots : List Handle) : Prop where
  forest : after.IsForest
  nodup : roots.Nodup
  /-- The roots are in no list yet. -/
  loose : ∀ root ∈ roots, after.occurrences root = 0
  kept : ∀ handle, before.contains handle → after.occurrences handle = before.occurrences handle

/-- Nodes that are added from the leaves up are trees: each root gets its place when the node over
it is added. -/
theorem Accretes.isPlanted {before after : Scene} {roots issued : List Handle}
    (accretes : before.Accretes after roots issued) (forest : before.IsForest) :
    before.IsPlanted after roots := by
  induction accretes with
  | nil scene =>
    exact ⟨forest, List.nodup_nil, fun _ member => absurd member List.not_mem_nil,
      fun _ _ => rfl⟩
  | @append before between after roots others issued later first second firstPlanted
      secondPlanted =>
    have early := firstPlanted forest
    have late := secondPlanted early.forest
    have rootLive (root : Handle) (member : root ∈ roots) : between.contains root :=
      first.contains_iff.mpr (Or.inr (first.mem_issued_of_mem member))
    refine ⟨late.forest, ?_, ?_, ?_⟩
    · refine List.nodup_append.mpr ⟨early.nodup, late.nodup, ?_⟩
      rintro root member other otherMember rfl
      exact second.not_contains_of_mem (second.mem_issued_of_mem otherMember)
        (rootLive root member)
    · intro root member
      rcases List.mem_append.mp member with earlyMember | lateMember
      · rw [late.kept root (rootLive root earlyMember), early.loose root earlyMember]
      · exact late.loose root lateMember
    · intro handle old
      rw [late.kept handle (first.contains_iff.mpr (Or.inl old)), early.kept handle old]
  | @withNode before between roots issued below payload belowPlanted =>
    have lower := belowPlanted forest
    have rootLive (root : Handle) (member : root ∈ roots) : between.contains root :=
      below.contains_iff.mpr (Or.inr (below.mem_issued_of_mem member))
    refine ⟨lower.forest.withNode rootLive lower.nodup lower.loose, List.nodup_singleton _, ?_, ?_⟩
    · intro root member
      rw [List.mem_singleton.mp member, occurrences_withNode,
        lower.forest.closed.occurrences_of_dead (not_contains_freshHandle _ _), Nat.add_zero]
      exact List.count_eq_zero.mpr fun inside => not_contains_freshHandle _ _ (rootLive _ inside)
    · intro handle old
      have outside : handle ∉ roots := fun member =>
        below.not_contains_of_mem (below.mem_issued_of_mem member) old
      rw [occurrences_withNode, List.count_eq_zero.mpr outside, Nat.zero_add,
        lower.kept handle old]

/-! ### Nodes and lists that change -/

/-- Another payload changes nothing about the lists. -/
theorem IsForest.setPayload {scene : Scene} (forest : scene.IsForest) {handle : Handle}
    {old : Payload} {children : List Handle}
    (found : scene.nodes.get? handle = some ⟨old, children⟩) (new : Payload) :
    (scene.setNode handle ⟨new, children⟩).IsForest := by
  have live := Arena.contains_of_get? found
  have steps (parent child : Handle)
      (step : (scene.setNode handle ⟨new, children⟩).IsChild parent child) :
      scene.IsChild parent child := by
    rw [isChild_setNode_iff live] at step
    split at step
    case isTrue same => exact same ▸ (isChild_iff found).mpr step
    case isFalse => exact step
  refine forest.of_le (forest.closed.setNode live fun child member =>
    forest.closed.child_live handle child ((isChild_iff found).mpr member)) ?_ steps
  obtain ⟨rest, before, after⟩ := exists_listed_setNode_perm found ⟨new, children⟩
  intro other
  rw [occurrences, occurrences, after.count_eq, before.count_eq]

/-- Another list at a site changes the children of its node and of no other. -/
theorem isChild_setList_iff {scene : Scene} {site : Site} {list : List Handle}
    (found : scene.list? site = some list) (other : List Handle) {parent child : Handle} :
    (scene.setList site other).IsChild parent child ↔
      if site = .under parent then child ∈ other else scene.IsChild parent child := by
  by_cases same : site = .under parent
  · subst same
    obtain ⟨payload, held⟩ := exists_node_of_list? found
    rw [if_pos rfl, setList_under held, isChild_setNode_iff (Arena.contains_of_get? held),
      if_pos rfl]
  · rw [if_neg same, IsChild, IsChild, children, children, get?_setList_of_ne same]

/-- A list may lose members. -/
theorem IsForest.setList_of_subperm {scene : Scene} (forest : scene.IsForest) {site : Site}
    {list other : List Handle} (found : scene.list? site = some list)
    (fewer : other.Subperm list) : (scene.setList site other).IsForest := by
  refine forest.of_le (forest.closed.setList fun handle member =>
    forest.closed.live_of_list? found (fewer.subset member)) ?_ ?_
  · intro handle
    have places := occurrences_setList found other handle
    have less := fewer.count_le handle
    omega
  · intro parent child step
    rw [isChild_setList_iff found] at step
    split at step
    case isTrue same =>
      subst same
      obtain ⟨payload, held⟩ := exists_node_of_list? found
      exact (isChild_iff held).mpr (fewer.subset step)
    case isFalse => exact step

/-- A list may get a live child that has no place yet and that does not reach the node of the
list. -/
theorem IsForest.setList_of_perm_cons {scene : Scene} (forest : scene.IsForest) {site : Site}
    {list other : List Handle} (found : scene.list? site = some list) {child : Handle}
    (added : other.Perm (child :: list)) (live : scene.contains child)
    (loose : scene.occurrences child = 0)
    (apart : ∀ parent, site = .under parent → ¬ scene.Reaches child parent) :
    (scene.setList site other).IsForest := by
  refine ⟨forest.closed.setList ?_, ?_, ?_⟩
  · intro handle member
    rcases List.mem_cons.mp (added.mem_iff.mp member) with rfl | old
    · exact live
    · exact forest.closed.live_of_list? found old
  · intro handle
    have places := occurrences_setList found other handle
    rw [added.count_eq] at places
    by_cases same : handle = child
    · subst same
      rw [List.count_cons_self] at places
      omega
    · rw [List.count_cons_of_ne (Ne.symm same)] at places
      have before := forest.single handle
      omega
  · intro handle path
    cases site with
    | top => exact forest.acyclic handle path
    | under parent =>
      obtain ⟨payload, held⟩ := exists_node_of_list? found
      -- The only new step leads from the node of the list to the child.
      have steps (first second : Handle)
          (step : (scene.setList (.under parent) other).IsChild first second) :
          scene.IsChild first second ∨ first = parent ∧ second = child := by
        rw [isChild_setList_iff found] at step
        split at step
        case isTrue same =>
          cases same
          rcases List.mem_cons.mp (added.mem_iff.mp step) with rfl | old
          · exact Or.inr ⟨rfl, rfl⟩
          · exact Or.inl ((isChild_iff held).mpr old)
        case isFalse => exact Or.inl step
      rcases transGen_or_of_step steps path with old | ⟨front, rest⟩
      · exact forest.acyclic handle old
      · exact apart parent rfl (rest.trans front)

/-! ### Nodes that are freed -/

theorem children_pruned_of_contains {scene : Scene} {handle : Handle}
    (stays : scene.reachable.contains handle) :
    scene.pruned.children handle = scene.children handle := by
  have attached := (mem_reachable_iff.mp (List.contains_iff_mem.mp stays)).2
  rw [children, children, get?_pruned_of_isAttached attached]

/-- Pruning takes places away together with the lists that they are in. -/
theorem occurrences_pruned_le (scene : Scene) (handle : Handle) :
    scene.pruned.occurrences handle ≤ scene.occurrences handle := by
  have handles := Arena.handles_retain_perm scene.nodes fun handle =>
    scene.reachable.contains handle
  have same : (scene.nodes.handles.filter scene.reachable.contains).flatMap
      scene.pruned.children =
      (scene.nodes.handles.filter scene.reachable.contains).flatMap scene.children := by
    rw [List.flatMap_def, List.flatMap_def]
    refine congrArg List.flatten (List.map_congr_left fun handle member => ?_)
    exact children_pruned_of_contains (List.mem_filter.mp member).2
  have fewer : ((scene.nodes.handles.filter scene.reachable.contains).flatMap
      scene.children).Sublist (scene.nodes.handles.flatMap scene.children) :=
    List.filter_sublist.flatMap _
  have split := (handles.flatMap_right scene.pruned.children).count_eq handle
  rw [same] at split
  rw [occurrences, occurrences, listed, listed, List.count_append, List.count_append, top_pruned]
  exact Nat.add_le_add_left (split.trans_le (fewer.count_le handle)) _

/-- Pruning leaves a forest. -/
theorem IsForest.pruned {scene : Scene} (forest : scene.IsForest) : scene.pruned.IsForest := by
  refine forest.of_le forest.closed.pruned (occurrences_pruned_le scene) fun parent child step => ?_
  obtain ⟨node, found, _⟩ := step.exists_node
  have attached := (contains_pruned_iff.mp (Arena.contains_of_get? found)).2
  exact ((pruned_agreesBelow attached).isChild_iff Relation.ReflTransGen.refl).mp step

theorem IsForest.cleared {scene : Scene} (forest : scene.IsForest) :
    ({ scene with top := [] } : Scene).IsForest :=
  forest.setList_of_subperm (rfl : scene.list? .top = some scene.top) List.nil_subperm

/-! ### Paths down a forest -/

/-- A path down from a live node meets no node twice, so it has at most as many nodes as the
scene. -/
theorem IsForest.length_le_size {scene : Scene} (forest : scene.IsForest) {root : Handle}
    {path : List Handle} (live : scene.contains root)
    (chain : (root :: path).IsChain scene.IsChild) : (root :: path).length ≤ scene.size := by
  have above : (root :: path).IsChain (Relation.TransGen scene.IsChild) :=
    chain.imp fun _ _ step => Relation.TransGen.single step
  have ordered := above.pairwise
  have nodup : (root :: path).Nodup := by
    refine ordered.imp fun {first second} below same => ?_
    exact forest.acyclic second (same ▸ below)
  have members : root :: path ⊆ scene.nodes.handles := by
    intro handle member
    refine Arena.mem_handles_iff.mpr ?_
    rcases List.mem_cons.mp member with rfl | later
    · exact live
    · exact forest.closed.live_of_reaches live
        ((List.pairwise_cons.mp ordered).1 handle later).to_reflTransGen
  exact (List.subperm_of_subset nodup members).length_le

/-- In a forest every live node unfolds. -/
theorem IsForest.exists_unfolds {scene : Scene} (forest : scene.IsForest) {handle : Handle}
    (live : scene.contains handle) : ∃ solid, scene.Unfolds handle solid :=
  Scene.exists_unfolds forest.closed live fun other _ => forest.acyclic other

/-- The unfolding that the text and the report are read off does not depend on its depth, as long
as that is at least the size of the forest. -/
theorem IsForest.unfold_eq {scene : Scene} (forest : scene.IsForest) (handle : Handle)
    {depth : Nat} (enough : scene.size ≤ depth) :
    scene.unfold depth handle = scene.solid? handle := by
  by_cases live : scene.contains handle
  · have less := card_below_lt_size (forest.acyclic handle) live
    exact unfold_eq_of_card_lt (fun other _ => forest.acyclic other) (less.trans_le enough) less
  · rw [solid?, unfold_of_dead live, unfold_of_dead live]

end Scene

namespace Edit

open Scene

/-! ### Copies in a forest -/

/-- A copy of a node is a copy of its children and then a node over them. Depth zero cuts nothing
off a node without children. -/
theorem run_copyDown_of_get? {scene : Scene} {handle : Handle} {node : Node}
    (found : scene.nodes.get? handle = some node) {depth : Nat}
    (leaf : depth = 0 → node.children = []) :
    (copyDown depth handle).run scene =
      (node.children.mapM (copyDown (depth - 1)) >>= fun copies =>
        insertNode ⟨node.payload, copies⟩).run scene := by
  cases depth with
  | zero =>
    rw [copyDown, EStateM.run_bind, run_node found, leaf rfl]
    rfl
  | succ depth =>
    rw [copyDown, EStateM.run_bind, run_node found]
    rfl

/-- Copies do not depend on the depth, as long as that is not below the height of what is copied.
As in `run_mapM_copyDown` each copy goes into a scene that the copies before it have made. -/
theorem run_mapM_copyDown_congr {source : Scene} {handles : List Handle} {solids : List Solid}
    (unfolds : List.Forall₂ source.Unfolds handles solids) {first second : Nat}
    (firstEnough : Solid.heightAll solids ≤ first + 1)
    (secondEnough : Solid.heightAll solids ≤ second + 1) {scene : Scene}
    (keeps : scene.KeepsNodesOf source) :
    (handles.mapM (copyDown first)).run scene = (handles.mapM (copyDown second)).run scene := by
  induction unfolds using unfolds_induction generalizing first second scene with
  | nil => rfl
  | @cons handle payload children solids tail rest found below later belowHypothesis
      laterHypothesis =>
    simp only [Solid.heightAll, Solid.height] at firstEnough secondEnough
    have leaf (depth : Nat) (enough : Solid.heightAll solids ≤ depth) (zero : depth = 0) :
        children = [] := by
      have flat := Solid.eq_nil_of_heightAll (Nat.le_zero.mp (zero ▸ enough))
      exact List.forall₂_nil_right_iff.mp (flat ▸ below)
    have here : (copyDown first handle).run scene = (copyDown second handle).run scene := by
      have kept := keeps handle _ found
      have lower : (children.mapM (copyDown (first - 1))).run scene =
          (children.mapM (copyDown (second - 1))).run scene :=
        belowHypothesis (by omega) (by omega) keeps
      rw [run_copyDown_of_get? kept (leaf first (by omega)),
        run_copyDown_of_get? kept (leaf second (by omega)), EStateM.run_bind, EStateM.run_bind,
        lower]
    rw [List.mapM_cons, List.mapM_cons, EStateM.run_bind, EStateM.run_bind, here]
    cases run : (copyDown second handle).run scene with
    | error fault between => rfl
    | ok copy between =>
      obtain ⟨issued, accretes⟩ := (onlyAdds_copyDown second handle).of_ok run
      have further : (tail.mapM (copyDown first)).run between =
          (tail.mapM (copyDown second)).run between :=
        laterHypothesis (by omega) (by omega) (accretes.keepsNodesOf.trans keeps)
      simp only [EStateM.run_bind, further]

/-- In a forest a copy of all that is below a node does not depend on the depth, as long as that
is at least the size of the forest. -/
theorem run_copyDown_eq_clone {scene : Scene} (forest : scene.IsForest) (handle : Handle)
    {depth : Nat} (enough : scene.size ≤ depth) :
    (copyDown depth handle).run scene = (clone handle true).run scene := by
  have whole : (clone handle true).run scene = (copyDown scene.size handle).run scene := by
    simp only [clone, EStateM.run_bind, EStateM.run_get, if_true]
  rw [whole]
  by_cases live : scene.contains handle
  · obtain ⟨⟨payload, solids⟩, unfolds⟩ := forest.exists_unfolds live
    have height := heightAll_le_size (List.Forall₂.cons unfolds List.Forall₂.nil)
    simp only [Solid.heightAll, Solid.height] at height
    obtain ⟨children, found, below⟩ := unfolds_node_iff.mp unfolds
    have lower : (children.mapM (copyDown (depth - 1))).run scene =
        (children.mapM (copyDown (scene.size - 1))).run scene :=
      run_mapM_copyDown_congr below (by omega) (by omega) (KeepsNodesOf.refl scene)
    rw [run_copyDown_of_get? found (by omega), run_copyDown_of_get? found (by omega),
      EStateM.run_bind, EStateM.run_bind, lower]
  · rw [run_copyDown_of_dead live, run_copyDown_of_dead live]

end Edit

end SolidScene
