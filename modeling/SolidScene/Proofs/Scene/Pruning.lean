/-
This file shows that pruning keeps what is attached and frees everything else. What
is left reads as before: the paths from the top run through attached nodes only, so
the solids at the top are the same, although the scene has become smaller and is
unfolded down to a smaller depth.

Which nodes are freed is known from the search, for scenes of every shape. The
number of nodes freed is the number of handles that were live and not attached, and
pruning a second time changes nothing at all, not even the order in which vacant
slots are taken again. Only for the text the scene is asked to have no cycle at the
top: below a cycle what is generated depends on the depth, and the depth is the
number of nodes.
-/
import SolidScene.Proofs.Scene.History

namespace SolidScene

namespace Scene

/-- Without cycles at the top pruning leaves the solids as they are. -/
theorem solids_pruned {scene : Scene} (closed : scene.IsClosed) (acyclic : scene.IsAcyclic) :
    scene.pruned.solids = scene.solids :=
  (keepsAttached_pruned scene).solids_eq closed acyclic

/-- The text and the report are read off the solids at the top. -/
theorem text_eq_of_solids_eq {first second : Scene} (same : first.solids = second.solids) :
    first.text = second.text := by
  rw [text, text, same]

/-- Scenes with the same solids at the top have the same report. -/
theorem report_eq_of_solids_eq {first second : Scene} (same : first.solids = second.solids) :
    first.report = second.report := by
  rw [report, report, same]

/-- Pruning ends in every scene that arises by operations, and collects exactly the garbage:
a handle stays live if it was live and can be reached from the top, the nodes that stay are as
they were, and so is the list at the top. The answer counts the nodes that were freed. To prune
once more frees none. Without cycles at the top the text and the report are the same. -/
theorem prune_collects {scene : Scene} (built : scene.IsBuilt) :
    ∃ count after, Edit.prune.run scene = .ok count after ∧
      (∀ handle, after.contains handle ↔ scene.contains handle ∧ scene.IsAttached handle) ∧
      (∀ handle, after.contains handle →
        after.nodes.get? handle = scene.nodes.get? handle) ∧
      after.top = scene.top ∧
      count + after.size = scene.size ∧
      Edit.prune.run after = .ok 0 after ∧
      (scene.IsAcyclic → after.text = scene.text ∧ after.report = scene.report) := by
  refine ⟨_, _, Edit.run_prune scene, fun handle => contains_pruned_iff, ?_, top_pruned scene,
    ?_, ?_, ?_⟩
  · intro handle live
    exact get?_pruned_of_isAttached (contains_pruned_iff.mp live).2
  · exact Nat.sub_add_cancel (size_pruned_le scene)
  · rw [Edit.run_prune, pruned_pruned, Nat.sub_self]
  · intro acyclic
    have same := solids_pruned built.isClosed acyclic
    exact ⟨text_eq_of_solids_eq same, report_eq_of_solids_eq same⟩

/-- Pruning frees the loose node of each of the two scenes, keeps the circle of the one, and
leaves the text of the other. -/
theorem prune_collects_circle_and_twins :
    (∃ after, Edit.prune.run circle = .ok 1 after ∧ after.contains ⟨1, 3⟩) ∧
      ∃ after, Edit.prune.run twins = .ok 1 after ∧ after.text = twins.text ∧
        after.report = twins.report := by
  constructor
  · obtain ⟨count, after, run, live, _, _, _, _, _⟩ := prune_collects isBuilt_circle
    have top : circle.top = [⟨2, 3⟩] := by cbv
    have step : circle.children ⟨2, 3⟩ = [⟨1, 3⟩] := by cbv
    have root : circle.IsAttached ⟨2, 3⟩ :=
      isAttached_of_mem_top (by rw [top]; exact List.mem_cons_self)
    have attached : circle.IsAttached ⟨1, 3⟩ :=
      root.of_isChild (by rw [IsChild, step]; exact List.mem_cons_self)
    cases run.symm.trans (Edit.run_prune circle)
    have count : circle.size - circle.pruned.size = 1 := by cbv
    refine ⟨circle.pruned, by rw [Edit.run_prune, count], (live ⟨1, 3⟩).mpr ⟨by cbv, attached⟩⟩
  · obtain ⟨count, after, run, _, _, _, _, _, same⟩ := prune_collects isBuilt_twins
    have top : twins.top = [⟨1, 1⟩] := by cbv
    have acyclic : twins.IsAcyclic := by
      intro root member
      rw [top, List.mem_singleton] at member
      exact member ▸ unfolds_twins.isAcyclicFrom
    cases run.symm.trans (Edit.run_prune twins)
    have count : twins.size - twins.pruned.size = 1 := by cbv
    exact ⟨twins.pruned, by rw [Edit.run_prune, count], same acyclic⟩

end Scene

end SolidScene
