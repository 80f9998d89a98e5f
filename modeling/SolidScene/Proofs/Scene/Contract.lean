/-
This file states what is asked of those who edit a scene, since the edits do not
look out for it: a child that goes into a list has no place in any list at that
moment, and the node of the list is neither the child nor below it. Whoever keeps to
this, whatever else the operations are, has a forest after every run.

The contract is asked of each operation in the scene that the operations before it
have left. It says nothing about operations that put nothing into a list, and an
operation may keep to it and still be refused. What a forest is, and that each
change keeps it one, is the subject of the file on forests; here the changes are
only put together into operations and runs.
-/
import SolidScene.Proofs.Scene.Forest

namespace SolidScene

/-- A child that is put into a list is one member more, wherever it stands. -/
theorem placeBefore_perm (child before : Handle) (list : List Handle) :
    (placeBefore child before list).Perm (child :: list) := by
  induction list with
  | nil => exact List.Perm.refl _
  | cons other rest inductionHypothesis =>
    rw [placeBefore]
    split
    · exact List.Perm.refl _
    · exact (inductionHypothesis.cons other).trans (List.Perm.swap child other rest)

namespace Scene

/-- A child does not reach a node if it is another one and none of its own children reaches it. -/
theorem not_reaches_of_children {scene : Scene} {child parent : Handle} (different : child ≠ parent)
    (below : ∀ lower ∈ scene.children child, ¬ scene.Reaches lower parent) :
    ¬ scene.Reaches child parent := by
  intro path
  rcases Relation.ReflTransGen.cases_head path with same | ⟨lower, step, rest⟩
  · exact different same
  · exact below lower step rest

end Scene

namespace Operation

/-! ### The contract -/

/-- An operation keeps to the contract in a scene: a child that it brings into a list has no place
in the lists of the scene, and no path leads from the child to the node of that list, not even the
one without a step. -/
def IsTidy (scene : Scene) : Operation → Prop
  | append site child | insertBefore site child _ =>
    scene.occurrences child = 0 ∧ ∀ parent, site = .under parent → ¬ scene.Reaches child parent
  | _ => True

/-- Operations keep to the contract, each one in the scene that those before it leave behind. -/
def AreTidy (scene : Scene) : List Operation → Prop
  | [] => True
  | operation :: rest => operation.IsTidy scene ∧ AreTidy (operation.after scene) rest

theorem afterAll_append (scene : Scene) (front rest : List Operation) :
    afterAll scene (front ++ rest) = afterAll (afterAll scene front) rest := List.foldl_append

/-- Two runs keep to the contract if the second one does so in the scene that the first one leaves.
-/
theorem areTidy_append {scene : Scene} {front rest : List Operation} :
    AreTidy scene (front ++ rest) ↔ AreTidy scene front ∧ AreTidy (afterAll scene front) rest := by
  induction front generalizing scene with
  | nil => exact (and_iff_right trivial).symm
  | cons operation front inductionHypothesis =>
    rw [List.cons_append, AreTidy, AreTidy, inductionHypothesis, and_assoc]
    rfl

end Operation

namespace Scene

/-! ### Runs that keep to the contract -/

/-- One operation that keeps to the contract leaves a forest behind. -/
theorem IsForest.after {scene : Scene} (forest : scene.IsForest) {operation : Operation}
    (tidy : operation.IsTidy scene) : (operation.after scene).IsForest := by
  generalize result : operation.after scene = after
  have effect : operation.Effect scene after := result ▸ operation.effect_after scene
  cases effect with
  | refused => exact forest
  | create name bag => exact forest.withLeaf _
  | insert payload => exact forest.withLeaf payload
  | update found bag => exact forest.setPayload found _
  | clone accretes => exact (accretes.isPlanted forest).forest
  | append live found =>
    exact forest.setList_of_perm_cons found (List.perm_append_singleton _ _) live tidy.1 tidy.2
  | insertBefore live found before =>
    exact forest.setList_of_perm_cons found (placeBefore_perm _ before _) live tidy.1 tidy.2
  | remove found child => exact forest.setList_of_subperm found List.erase_sublist.subperm
  | clear => exact forest.cleared
  | prune => exact forest.pruned

/-- So does a whole run. -/
theorem IsForest.afterAll {scene : Scene} (forest : scene.IsForest)
    {operations : List Operation} (tidy : Operation.AreTidy scene operations) :
    (Operation.afterAll scene operations).IsForest := by
  induction operations generalizing scene with
  | nil => exact forest
  | cons operation rest inductionHypothesis =>
    exact inductionHypothesis (forest.after tidy.1) tidy.2

end Scene

end SolidScene
