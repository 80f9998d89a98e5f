/-
This file shows that a node without a cycle below it is cloned as a whole. The clone
is made of new nodes only, one for each time that a node occurs below the original,
and it reads like the original at every indent and in every report.

A clone is not a second drawing of the part of the scene that is below a node: a
node that stands in two lists there is copied twice, so a clone is always a tree.
That is why what it has in common with the original is the solid that both unfold
to, and why the number of nodes that it adds is the number of nodes of this solid.
The scene around the clone is the one of before: it keeps all nodes, with their
lists, and its top.
-/
import SolidScene.Proofs.Scene.History

namespace SolidScene

namespace Scene

/-- Cloning a live node without a cycle below it, with all that is below it, succeeds. The
clone unfolds to the solid of the original, and nothing that it reaches was live before. Every
node that was live before stays with its payload and its children, and the list at the top stays
as well. There is one new node for each payload of the solid, so a node that stands in two lists
is cloned twice. The clone has the text and the report entry of the original. -/
theorem clone_unfolds_alike {scene : Scene} (built : scene.IsBuilt) {handle : Handle}
    (live : scene.contains handle) (acyclic : scene.IsAcyclicFrom handle) :
    ∃ copy after solid, (Edit.clone handle true).run scene = .ok copy after ∧
      scene.Unfolds handle solid ∧ after.Unfolds copy solid ∧
      (∀ other, after.Reaches copy other → ¬ scene.contains other) ∧
      (∀ other node, scene.nodes.get? other = some node →
        after.nodes.get? other = some node) ∧
      after.top = scene.top ∧
      after.size = scene.size + solid.count ∧
      (∀ indent, after.source indent copy = after.source indent handle ∧
        after.source indent handle = scene.source indent handle) ∧
      after.entryAt? copy = after.entryAt? handle ∧
      after.entryAt? handle = scene.entryAt? handle ∧
      scene.entryAt? handle = some (Entry.ofSolid solid) := by
  obtain ⟨solid, unfolds⟩ := exists_unfolds built.isClosed live acyclic
  obtain ⟨copy, after, run, isCopy⟩ := Edit.run_clone built.isClosed unfolds
  have copyUnfolds : after.Unfolds copy solid := (List.forall₂_cons.mp isCopy.grows.unfolds).1
  -- The original still unfolds to its solid, since its nodes are all kept.
  have stays : after.Unfolds handle solid :=
    (isCopy.keeps.agreesBelow built.isClosed live).unfolds unfolds
  refine ⟨copy, after, solid, run, unfolds, copyUnfolds, ?_, isCopy.keeps, isCopy.top_eq, ?_, ?_,
    ?_, ?_, unfolds.entryAt?_eq⟩
  · exact isCopy.grows.fresh copy List.mem_cons_self
  · rw [isCopy.size_eq, Solid.countAll, Solid.countAll, Nat.add_zero]
  · intro indent
    rw [copyUnfolds.source_eq, stays.source_eq, unfolds.source_eq]
    exact ⟨rfl, rfl⟩
  · rw [copyUnfolds.entryAt?_eq, stays.entryAt?_eq]
  · rw [stays.entryAt?_eq, unfolds.entryAt?_eq]

/-- A node with one child that stands twice in its list is cloned into three nodes. -/
theorem clone_unfolds_alike_twins :
    ∃ copy after, (Edit.clone ⟨1, 1⟩ true).run twins = .ok copy after ∧
      after.Unfolds copy (.node .union [.node .group [], .node .group []]) ∧
      after.size = twins.size + 3 := by
  obtain ⟨copy, after, solid, run, unfolds, copyUnfolds, _, _, _, size, _⟩ :=
    clone_unfolds_alike isBuilt_twins (by cbv) unfolds_twins.isAcyclicFrom
  cases unfolds.eq unfolds_twins
  exact ⟨copy, after, run, copyUnfolds, size⟩

end Scene

end SolidScene
