/-
This file is about edits beside what is attached. The text and the report of a scene
are read off the nodes that can be reached from the top, and a node that cannot be
reached stays out of reach: whatever its list is made to hold, no list of an
attached node holds the node itself. A new node is in no list at all, also where it
takes the slot of a node that was freed.

Two scenes with the same list at the top and the same attached nodes have the same
solids at the top, and hence the same text and report, though one of them may be
larger and be unfolded further down. What is left to show for each operation is that
it keeps the attached nodes as they are. This is a matter of the handle that it
changes, and the effect of an operation names that handle.
-/
import SolidScene.Proofs.Scene.Effect
import SolidScene.Proofs.Scene.Pruning

namespace SolidScene

namespace Scene

/-! ### Changes out of reach -/

/-- A change of a node out of reach leaves the attached nodes alone. -/
theorem keepsAttached_setNode {scene : Scene} {changed : Handle}
    (apart : ¬ scene.IsAttached changed) (node : Node) :
    (scene.setNode changed node).KeepsAttached scene where
  top_eq := rfl
  get?_eq handle attached :=
    get?_setNode_of_ne (fun same : handle = changed => apart (same ▸ attached)) node

/-- So does a change of the list under it, even one that brings an attached node into the list. -/
theorem keepsAttached_setList {scene : Scene} {parent : Handle}
    (apart : ¬ scene.IsAttached parent) (list : List Handle) :
    (scene.setList (.under parent) list).KeepsAttached scene := by
  rw [setList]
  split
  case h_1 node _ => exact keepsAttached_setNode apart _
  case h_2 => exact KeepsAttached.refl scene

end Scene

namespace Operation

open Scene

/-! ### Operations beside what is attached -/

/-- An operation that is beside what is attached: it adds nodes, or it changes a node that cannot be
reached from the top, or the list under one. Nothing is asked of its other arguments, except that
a copy ends; what goes into such a list may be dead, or attached itself. -/
def IsAside (scene : Scene) : Operation → Prop
  | create .. | insert _ | createText _ => True
  | clone handle withChildren => (clone handle withChildren).IsAdmitted scene
  | update handle _ => ¬ scene.IsAttached handle
  | append site _ | insertBefore site _ _ | remove site _ =>
    ∃ parent, site = .under parent ∧ ¬ scene.IsAttached parent
  | clear | prune => False

/-- Such an operation keeps what is attached, whether it succeeds or fails. -/
theorem IsAside.keepsAttached {scene : Scene} (closed : scene.IsClosed) {operation : Operation}
    (aside : operation.IsAside scene) : (operation.after scene).KeepsAttached scene := by
  generalize result : operation.after scene = after
  have effect : operation.Effect scene after := result ▸ operation.effect_after scene
  cases effect with
  | refused => exact KeepsAttached.refl scene
  | create name bag => exact (keepsNodesOf_withNode scene _).keepsAttached closed rfl
  | insert payload => exact (keepsNodesOf_withNode scene _).keepsAttached closed rfl
  | update found bag => exact keepsAttached_setNode aside _
  | clone accretes => exact accretes.keepsNodesOf.keepsAttached closed accretes.top_eq
  | append live found =>
    obtain ⟨parent, rfl, apart⟩ := aside
    exact keepsAttached_setList apart _
  | insertBefore live found before =>
    obtain ⟨parent, rfl, apart⟩ := aside
    exact keepsAttached_setList apart _
  | remove found child =>
    obtain ⟨parent, rfl, apart⟩ := aside
    exact keepsAttached_setList apart _
  | clear => exact aside.elim
  | prune => exact aside.elim

end Operation

namespace Scene

/-- Edits beside what is attached cannot be seen: in a scene that arises by operations and has no
cycle at the top, every operation that adds nodes or changes a node out of reach, or the list
under one, leaves the text and the report as they are, whether it succeeds or fails. -/
theorem text_and_report_after_of_isAside {scene : Scene} (built : scene.IsBuilt)
    (acyclic : scene.IsAcyclic) {operation : Operation} (aside : operation.IsAside scene) :
    (operation.after scene).text = scene.text ∧ (operation.after scene).report = scene.report := by
  have closed := built.isClosed
  have same := (aside.keepsAttached closed).solids_eq closed acyclic
  exact ⟨text_eq_of_solids_eq same, report_eq_of_solids_eq same⟩

/-- In the scene with the twins the loose node gets the node at the top into its list, and the text
and the report stay as they are. -/
theorem text_and_report_after_append_twins :
    ((Operation.append (.under ⟨3, 1⟩) ⟨1, 1⟩).after twins).children ⟨3, 1⟩ = [⟨1, 1⟩] ∧
      ((Operation.append (.under ⟨3, 1⟩) ⟨1, 1⟩).after twins).text = twins.text ∧
      ((Operation.append (.under ⟨3, 1⟩) ⟨1, 1⟩).after twins).report = twins.report := by
  have top : twins.top = [⟨1, 1⟩] := by cbv
  have acyclic : twins.IsAcyclic := by
    intro root member
    rw [top, List.mem_singleton] at member
    exact member ▸ unfolds_twins.isAcyclicFrom
  have apart : ¬ twins.IsAttached ⟨3, 1⟩ := by
    intro attached
    have found : ⟨3, 1⟩ ∈ twins.reachable := mem_reachable_iff.mpr ⟨by cbv, attached⟩
    have missed : twins.reachable.contains ⟨3, 1⟩ = false := by cbv
    rw [List.contains_iff_mem.mpr found] at missed
    exact Bool.noConfusion missed
  exact ⟨by cbv, text_and_report_after_of_isAside isBuilt_twins acyclic ⟨_, rfl, apart⟩⟩

end Scene

end SolidScene
