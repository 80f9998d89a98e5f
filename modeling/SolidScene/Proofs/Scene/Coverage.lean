/-
This file shows that the report of a forest covers it. A walk meets a node, then all
that is below it, and then what comes after it. In a forest a walk from the top
meets no node twice: a node at the top is in no list under a node, and any other one
is in the list of one parent only, so the walk meets it as often as the parent.
After pruning the walk from the top meets all nodes that are left, and the entries
of the report come in its order. The children of a node whose text leaves them out
have their entries too.

There are three walks, over handles, over solids and over entries, and they are the
same walk: where handles unfold there is a walk of handles whose nodes are those of
the walk of solids, in order, and the entries are made one from each solid. The
counting is done on handles, since only there two occurrences can be told to be of
one node.
-/
import Mathlib.Algebra.Order.BigOperators.Group.List
import SolidScene.Proofs.Scene.Contract
import SolidScene.Proofs.Source.Sizes

namespace SolidScene

/-! ### Solids and entries in depth-first order -/

namespace Solid

mutual

/-- The solids from a solid down, each in front of those below it. -/
def walk : Solid → List Solid
  | .node payload children => .node payload children :: walkAll children

/-- The solids from several solids down, one after the other. -/
def walkAll : List Solid → List Solid
  | [] => []
  | solid :: rest => solid.walk ++ walkAll rest

end

/-- The kind of a solid, and how many children it has. -/
def outline (solid : Solid) : Kind × Nat := (solid.payload.kind, solid.children.length)

end Solid

namespace Entry

mutual

/-- The entries from an entry down, each in front of those below it. -/
def walk : Entry → List Entry
  | node kind size children => node kind size children :: walkAll children

/-- The entries from several entries down, one after the other. -/
def walkAll : List Entry → List Entry
  | [] => []
  | entry :: rest => entry.walk ++ walkAll rest

end

/-- The kind of an entry, and how many entries are directly below it. -/
def outline (entry : Entry) : Kind × Nat := (entry.kind, entry.children.length)

/-- The entry of a solid has its kind and as many entries below it as it has children. -/
theorem outline_ofSolid (solid : Solid) : (ofSolid solid).outline = solid.outline := by
  cases solid with
  | node payload children =>
    rw [ofSolid, ofSolids_eq_map, outline, Solid.outline, kind, Entry.children, List.length_map,
      Solid.payload, Solid.children]

/-- The entries of solids come in the order of the solids. -/
theorem walkAll_ofSolids (solids : List Solid) :
    walkAll (ofSolids solids) = (Solid.walkAll solids).map ofSolid := by
  induction solids using Solid.list_induction with
  | nil => rfl
  | cons payload children rest childrenHypothesis restHypothesis =>
    rw [ofSolids, ofSolid, walkAll, walk, childrenHypothesis, restHypothesis, Solid.walkAll,
      Solid.walk, List.map_append, List.map_cons, ofSolid]

theorem countAll_ofSolids (solids : List Solid) :
    countAll (ofSolids solids) = (Solid.walkAll solids).length := by
  induction solids using Solid.list_induction with
  | nil => rfl
  | cons payload children rest childrenHypothesis restHypothesis =>
    rw [ofSolids, ofSolid, countAll, count, childrenHypothesis, restHypothesis, Solid.walkAll,
      Solid.walk, List.length_append, List.length_cons, Nat.add_comm 1]

end Entry

namespace Scene

/-! ### Walks -/

/-- The handles that are met on the way down from some roots, each in front of those below it. -/
inductive Walks (scene : Scene) : List Handle → List Handle → Prop where
  | nil : Walks scene [] []
  | cons {handle : Handle} {node : Node} {rest below later : List Handle}
    (found : scene.nodes.get? handle = some node)
    (down : Walks scene node.children below) (on : Walks scene rest later) :
    Walks scene (handle :: rest) (handle :: below ++ later)

/-- Where handles unfold there is a walk from them, and it meets the solids in their order. -/
theorem exists_walks {scene : Scene} {roots : List Handle} {solids : List Solid}
    (unfolds : List.Forall₂ scene.Unfolds roots solids) :
    ∃ order, scene.Walks roots order ∧
      List.Forall₂ scene.Unfolds order (Solid.walkAll solids) := by
  induction unfolds using unfolds_induction with
  | nil => exact ⟨[], Walks.nil, List.Forall₂.nil⟩
  | @cons handle payload children solids tail rest found below later belowHypothesis
      laterHypothesis =>
    obtain ⟨lower, down, lowerUnfolds⟩ := belowHypothesis
    obtain ⟨others, on, otherUnfolds⟩ := laterHypothesis
    refine ⟨_, Walks.cons found down on, ?_⟩
    rw [Solid.walkAll, Solid.walk]
    exact List.rel_append (List.Forall₂.cons (Unfolds.node found below) lowerUnfolds) otherUnfolds

/-- A walk meets what its roots reach. -/
theorem Walks.mem_iff {scene : Scene} {roots order : List Handle}
    (walks : scene.Walks roots order) {handle : Handle} :
    handle ∈ order ↔ ∃ root ∈ roots, scene.Reaches root handle := by
  induction walks with
  | nil => simp
  | @cons root node rest below later found _ _ downHypothesis onHypothesis =>
    rw [List.mem_append, List.mem_cons, downHypothesis, onHypothesis, List.exists_mem_cons_iff,
      Reaches, Relation.ReflTransGen.cases_head_iff, eq_comm]
    simp only [isChild_iff found]

/-- A walk meets a handle as often as the handle is a root, or in a list that the walk comes
by. -/
theorem Walks.count_eq {scene : Scene} {roots order : List Handle}
    (walks : scene.Walks roots order) (handle : Handle) :
    order.count handle = roots.count handle + (order.flatMap scene.children).count handle := by
  induction walks with
  | nil => rfl
  | @cons root node rest below later found _ _ downHypothesis onHypothesis =>
    rw [List.flatMap_append, List.flatMap_cons, children_of_get? found, List.cons_append,
      List.count_cons, List.count_cons, List.count_append, List.count_append, List.count_append,
      downHypothesis, onHypothesis]
    omega

/-! ### Parents in a forest -/

variable {scene : Scene}

/-- In a forest the lists put after one another name no handle twice. -/
theorem IsForest.nodup_listed (forest : scene.IsForest) : scene.listed.Nodup :=
  List.nodup_iff_count_le_one.mpr forest.single

/-- A node at the top is in no list under a node. -/
theorem IsForest.not_isChild_of_mem_top (forest : scene.IsForest) {parent child : Handle}
    (member : child ∈ scene.top) : ¬ scene.IsChild parent child := by
  intro step
  obtain ⟨node, found, _⟩ := step.exists_node
  have live := Arena.mem_handles_iff.mpr (Arena.contains_of_get? found)
  exact (List.nodup_append.mp forest.nodup_listed).2.2 child member child
    (List.mem_flatMap.mpr ⟨parent, live, step⟩) rfl

/-- A node is in the list of one parent only. -/
theorem IsForest.eq_of_isChild (forest : scene.IsForest) {parent other child : Handle}
    (step : scene.IsChild parent child) (otherStep : scene.IsChild other child) :
    parent = other := by
  obtain ⟨node, found, _⟩ := step.exists_node
  obtain ⟨otherNode, otherFound, _⟩ := otherStep.exists_node
  have live := Arena.mem_handles_iff.mpr (Arena.contains_of_get? found)
  have otherLive := Arena.mem_handles_iff.mpr (Arena.contains_of_get? otherFound)
  have : Std.Symm (Function.onFun List.Disjoint scene.children) :=
    ⟨fun _ _ apart => List.Disjoint.symm apart⟩
  have apart := (List.nodup_flatMap.mp (List.nodup_append.mp forest.nodup_listed).2.1).2
  by_contra different
  exact apart.forall live otherLive different step otherStep

theorem IsForest.nodup_children (forest : scene.IsForest) (handle : Handle) :
    (scene.children handle).Nodup := by
  by_cases live : scene.contains handle
  · exact (List.nodup_flatMap.mp (List.nodup_append.mp forest.nodup_listed).2.1).1 handle
      (Arena.mem_handles_iff.mpr live)
  · rw [children, Arena.get?_eq_none_iff.mpr live]
    exact List.nodup_nil

/-! ### Walks in a forest -/

/-- A walk from the top of a forest meets no node twice. The induction is on the path to the
node. -/
theorem IsForest.nodup_of_walks (forest : scene.IsForest) {order : List Handle}
    (walks : scene.Walks scene.top order) : order.Nodup := by
  refine List.nodup_iff_count_le_one.mpr fun handle => ?_
  by_cases met : handle ∈ order
  · obtain ⟨root, member, path⟩ := walks.mem_iff.mp met
    clear met
    induction path with
    | refl =>
      have absent : root ∉ order.flatMap scene.children := fun inside => by
        obtain ⟨parent, _, step⟩ := List.mem_flatMap.mp inside
        exact forest.not_isChild_of_mem_top member step
      have once := (List.nodup_append.mp forest.nodup_listed).1
      rw [walks.count_eq, List.count_eq_zero.mpr absent, Nat.add_zero]
      exact List.nodup_iff_count_le_one.mp once root
    | @tail parent child _ step inductionHypothesis =>
      have absent : child ∉ scene.top := fun top => forest.not_isChild_of_mem_top top step
      have others (other : Handle) (different : other ≠ parent) (_ : other ∈ order) :
          (scene.children other).count child = 0 :=
        List.count_eq_zero.mpr fun otherStep =>
          different (forest.eq_of_isChild otherStep step)
      have once : (scene.children parent).count child = 1 :=
        List.count_eq_one_of_mem (forest.nodup_children parent) step
      calc order.count child
          = 0 + (order.flatMap scene.children).count child := by
            rw [walks.count_eq, List.count_eq_zero.mpr absent]
        _ = (order.map fun other => (scene.children other).count child).sum := by
            rw [Nat.zero_add, List.count_flatMap]
            rfl
        _ = order.count parent := by
            rw [List.sum_map_eq_nsmul_single parent _ others, once, smul_eq_mul, Nat.mul_one]
        _ ≤ 1 := inductionHypothesis
  · exact (List.count_eq_zero.mpr met).trans_le (Nat.zero_le 1)

/-- Where all live nodes are attached, a walk from the top of a forest meets each of them, and
meets it once. -/
theorem IsForest.length_of_walks (forest : scene.IsForest) {order : List Handle}
    (walks : scene.Walks scene.top order)
    (all : ∀ handle, scene.contains handle ↔ handle ∈ order) : order.length = scene.size :=
  (Arena.handles_perm (forest.nodup_of_walks walks) all).length_eq.symm

/-- After pruning a walk from the top meets all live nodes. -/
theorem IsForest.contains_pruned_iff_of_walks (forest : scene.IsForest) {order : List Handle}
    (walks : scene.pruned.Walks scene.pruned.top order) {handle : Handle} :
    scene.pruned.contains handle ↔ handle ∈ order := by
  rw [walks.mem_iff]
  show _ ↔ scene.pruned.IsAttached handle
  rw [contains_pruned_iff, isAttached_pruned_iff]
  refine and_iff_right_of_imp ?_
  rintro ⟨root, member, path⟩
  exact forest.closed.live_of_reaches (forest.closed.top_live root member) path

/-! ### Entries in a report -/

theorem map_entryAt?_of_unfolds {handles : List Handle} {solids : List Solid}
    (unfolds : List.Forall₂ scene.Unfolds handles solids) :
    handles.map scene.entryAt? = (solids.map Entry.ofSolid).map some := by
  induction unfolds with
  | nil => rfl
  | cons first _ inductionHypothesis =>
    rw [List.map_cons, List.map_cons, List.map_cons, first.entryAt?_eq, inductionHypothesis]

/-- The text of a node that does not write its children is that of its payload alone. -/
theorem source_eq_of_not_enclosing (forest : scene.IsForest) {handle : Handle} {node : Node}
    (found : scene.nodes.get? handle = some node) (leaf : node.payload.kind ∉ Kind.enclosing)
    (indent : String) :
    scene.source indent handle = (Solid.node node.payload []).source indent := by
  obtain ⟨⟨payload, solids⟩, unfolds⟩ := forest.exists_unfolds (Arena.contains_of_get? found)
  obtain ⟨children, held, _⟩ := unfolds_node_iff.mp unfolds
  cases found.symm.trans held
  have alone := Source.Form.encloses_iff.not.mpr leaf
  rw [unfolds.source_eq, Solid.source_node, Solid.source_node,
    Source.Form.text_of_not_encloses alone, Source.Form.text_of_not_encloses alone _
      (Source.inner _ _)]

/-- The report of a forest that was just pruned covers it. There is an order of all live nodes, each
of them in it once, in which the way down from the top meets them, and the depth-first entries of
the report are the entries of these nodes in this order. So there are as many entries as nodes, and
kind by kind, with the number of children of each, the entries are those of the unfolding of the
list at the top. The text of a node of a kind that does not write its children leaves them out, but
they are in the order like all others. -/
theorem report_covers_pruned {scene : Scene} (forest : scene.IsForest) :
    ∃ count after, Edit.prune.run scene = .ok count after ∧
      after.report.count = after.size ∧
      ∃ solids order, List.Forall₂ after.Unfolds after.top solids ∧
        (Entry.walkAll after.report.entries).map Entry.outline =
          (Solid.walkAll solids).map Solid.outline ∧
        after.Walks after.top order ∧ order.Nodup ∧
        (∀ handle, after.contains handle ↔ handle ∈ order) ∧
        order.map after.entryAt? = (Entry.walkAll after.report.entries).map some ∧
        ∀ handle node, after.nodes.get? handle = some node →
          node.payload.kind ∉ Kind.enclosing →
          (∀ indent,
            after.source indent handle = (Solid.node node.payload []).source indent) ∧
          ∀ child ∈ node.children, child ∈ order := by
  have left := forest.pruned
  obtain ⟨solids, unfolds⟩ := exists_forall₂ fun root member =>
    left.exists_unfolds (left.closed.top_live root member)
  obtain ⟨order, walks, orderUnfolds⟩ := exists_walks unfolds
  have all (handle : Handle) : scene.pruned.contains handle ↔ handle ∈ order :=
    forest.contains_pruned_iff_of_walks walks
  have entries : scene.pruned.report.entries = Entry.ofSolids solids :=
    congrArg Entry.ofSolids (solids_eq_of_unfolds unfolds)
  refine ⟨_, _, Edit.run_prune scene, ?_, solids, order, unfolds, ?_, walks,
    left.nodup_of_walks walks, all, ?_, ?_⟩
  · calc scene.pruned.report.count
        = (Solid.walkAll solids).length := by
          rw [Report.count, entries, Entry.countAll_ofSolids]
      _ = order.length := orderUnfolds.length_eq.symm
      _ = scene.pruned.size := left.length_of_walks walks all
  · rw [entries, Entry.walkAll_ofSolids, List.map_map]
    exact List.map_congr_left fun solid _ => Entry.outline_ofSolid solid
  · rw [entries, Entry.walkAll_ofSolids, map_entryAt?_of_unfolds orderUnfolds]
  · intro handle node found leaf
    refine ⟨source_eq_of_not_enclosing left found leaf, fun child member => ?_⟩
    exact (all child).mp (left.closed.child_live handle child ((isChild_iff found).mpr member))

/-- A scene with a node below a sphere, which is not in the text, and with a loose node. -/
def veiled : Scene :=
  Operation.afterAll .empty [.insert (.sphere ⟨none, none, none⟩), .insert .group, .insert .union,
    .append (.under ⟨1, 1⟩) ⟨2, 1⟩, .append .top ⟨1, 1⟩]

/-- Nothing in it has two places, and nothing is below itself. -/
theorem isForest_veiled : veiled.IsForest := by
  have apart : ¬ (Operation.afterAll .empty
      [.insert (.sphere ⟨none, none, none⟩), .insert .group, .insert .union]).Reaches
        ⟨2, 1⟩ ⟨1, 1⟩ := by
    have leaf : (Operation.afterAll .empty
        [.insert (.sphere ⟨none, none, none⟩), .insert .group, .insert .union]).children
          ⟨2, 1⟩ = [] := by cbv
    exact not_reaches_of_children (by decide) (by simp [leaf])
  refine isForest_empty.afterAll ⟨trivial, trivial, trivial, ⟨by cbv, ?_⟩, ⟨by cbv, ?_⟩, trivial⟩
  · rintro parent ⟨⟩
    exact apart
  · rintro parent ⟨⟩

/-- Pruning frees the loose node. The report counts the two others, although the text of the sphere
is the same as without the node below it. -/
theorem report_covers_pruned_veiled :
    ∃ after, Edit.prune.run veiled = .ok 1 after ∧ after.report.count = 2 ∧
      after.children ⟨1, 1⟩ = [⟨2, 1⟩] ∧
      after.source "" ⟨1, 1⟩ = (Solid.node (.sphere ⟨none, none, none⟩) []).source "" := by
  obtain ⟨count, after, run, counted, _, _, _, _, _, _, _, _, leaves⟩ :=
    report_covers_pruned isForest_veiled
  cases run.symm.trans (Edit.run_prune veiled)
  have freed : veiled.size - veiled.pruned.size = 1 := by cbv
  have size : veiled.pruned.size = 2 := by cbv
  have found : veiled.pruned.nodes.get? ⟨1, 1⟩ =
      some ⟨.sphere ⟨none, none, none⟩, [⟨2, 1⟩]⟩ := by cbv
  have alone := (leaves ⟨1, 1⟩ _ found (by decide)).1 ""
  exact ⟨veiled.pruned, by rw [Edit.run_prune, freed], counted.trans size,
    children_of_get? found, alone⟩

end Scene

end SolidScene
