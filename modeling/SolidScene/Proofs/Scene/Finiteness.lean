/-
This file carries a property of payloads along a run of operations. A copy repeats
payloads and the edits of lists do not touch any, so only new nodes and bags have to
keep the property. They do so for finite numbers when the bags and the payloads they
bring were read from JSON, and hence all numerals in the text are decimal literals.

The property is a parameter, for which two things are asked: the payloads that are
inserted or created have it, and a bag keeps it. From a scene it goes over to the
solids that are unfolded from it, also where there are cycles, because unfolding
invents no payload. The text of a solid whose payloads have finite numbers is the
text under any other writer of numbers that agrees on the finite ones; in this sense
no other number takes part in it.
-/
import SolidScene.Proofs.Scene.Effect
import SolidScene.Proofs.Source.Numerals
import SolidScene.Proofs.Source.Writers

namespace SolidScene

namespace Scene

/-! ### A property of all payloads -/

/-- A property holds of the payload of every node, in a list or not. -/
def Holds (property : Payload → Prop) (scene : Scene) : Prop :=
  ∀ handle payload, scene.payload? handle = some payload → property payload

variable {property : Payload → Prop} {scene : Scene}

theorem holds_empty : Scene.empty.Holds property := by
  intro handle payload found
  simp [payload?, Scene.empty] at found

theorem Holds.of_get? (holds : scene.Holds property) {handle : Handle} {node : Node}
    (found : scene.nodes.get? handle = some node) : property node.payload :=
  holds handle node.payload (Option.map_eq_some_iff.mpr ⟨node, found, rfl⟩)

theorem Holds.withNode (holds : scene.Holds property) {node : Node} (here : property node.payload) :
    (scene.withNode node).Holds property := by
  intro handle payload found
  rw [payload?] at found
  by_cases same : handle = scene.freshHandle node
  · rw [same, get?_withNode_self] at found
    cases found
    exact here
  · rw [get?_withNode_of_ne same] at found
    exact holds handle payload found

theorem Holds.setNode (holds : scene.Holds property) {changed : Handle}
    (live : scene.contains changed) {node : Node} (here : property node.payload) :
    (scene.setNode changed node).Holds property := by
  intro handle payload found
  rw [payload?] at found
  by_cases same : handle = changed
  · rw [same, get?_setNode_self live] at found
    cases found
    exact here
  · rw [get?_setNode_of_ne same] at found
    exact holds handle payload found

theorem Holds.setList (holds : scene.Holds property) (site : Site) (list : List Handle) :
    (scene.setList site list).Holds property := by
  intro handle payload found
  rw [payload?_setList] at found
  exact holds handle payload found

theorem Holds.pruned (holds : scene.Holds property) : scene.pruned.Holds property := by
  intro handle payload found
  rw [payload?, Scene.pruned, Arena.get?_retain] at found
  split at found
  · exact holds handle payload found
  · cases found

/-- What is unfolded from a node has payloads of the scene only, down to every depth. -/
theorem Holds.unfold (holds : scene.Holds property) {depth : Nat} {handle : Handle}
    {solid : Solid} (unfolded : scene.unfold depth handle = some solid) :
    solid.Holds property := by
  induction depth generalizing handle solid with
  | zero => cases unfolded
  | succ depth inductionHypothesis =>
    obtain ⟨node, found, rfl⟩ := Option.map_eq_some_iff.mp unfolded
    refine Solid.Holds.node (holds.of_get? found) fun child member => ?_
    obtain ⟨childHandle, -, childUnfolded⟩ := List.mem_filterMap.mp member
    exact inductionHypothesis childUnfolded

/-- What holds of all nodes holds in the solids at the top. -/
theorem Holds.solids (holds : scene.Holds property) :
    ∀ solid ∈ scene.solids, solid.Holds property := by
  intro solid member
  obtain ⟨root, -, unfolded⟩ := List.mem_filterMap.mp member
  exact holds.unfold unfolded

end Scene

namespace Edit

/-! ### Copies -/

variable {property : Payload → Prop}

/-- Where the copy of each node keeps a property of all payloads, so do the copies of several
nodes. -/
theorem holds_after_mapM {copy : Handle → Edit Handle}
    (each : ∀ handle scene, scene.Holds property → ((copy handle).after scene).Holds property)
    (handles : List Handle) {scene : Scene} (holds : scene.Holds property) :
    ((handles.mapM copy).after scene).Holds property := by
  induction handles generalizing scene with
  | nil => exact holds
  | cons handle rest inductionHypothesis =>
    rw [List.mapM_cons]
    refine after_bind (each handle scene holds) fun root between kept => ?_
    exact after_bind (inductionHypothesis kept) fun roots later kept => kept

/-- A look at a live node goes on with the node. -/
theorem after_node {α : Type} {scene : Scene} {handle : Handle} {found : Node}
    (live : scene.nodes.get? handle = some found) (next : Node → Edit α) :
    (node handle >>= next).after scene = (next found).after scene := by
  simp only [after, EStateM.run_bind, run_node live]

theorem after_node_of_dead {α : Type} {scene : Scene} {handle : Handle}
    (dead : ¬ scene.contains handle) (next : Node → Edit α) :
    (node handle >>= next).after scene = scene := by
  simp only [after, EStateM.run_bind, run_node_of_dead dead]

/-- A copy repeats payloads that are there, so it keeps every property of them. -/
theorem holds_after_copyDown (depth : Nat) (handle : Handle) {scene : Scene}
    (holds : scene.Holds property) : ((copyDown depth handle).after scene).Holds property := by
  induction depth generalizing handle scene with
  | zero =>
    rw [copyDown]
    by_cases live : scene.contains handle
    · obtain ⟨node, found⟩ := Arena.contains_iff.mp live
      have here := holds.of_get? found
      rw [after_node found, after_of_ok (run_insert scene node.payload)]
      exact holds.withNode here
    · rw [after_node_of_dead live]
      exact holds
  | succ depth inductionHypothesis =>
    rw [copyDown]
    by_cases live : scene.contains handle
    · obtain ⟨node, found⟩ := Arena.contains_iff.mp live
      have here := holds.of_get? found
      rw [after_node found]
      refine after_bind (holds_after_mapM (fun child _ => inductionHypothesis child)
        node.children holds) fun roots between kept => ?_
      exact kept.withNode here
    · rw [after_node_of_dead live]
      exact holds

theorem holds_after_clone (handle : Handle) (withChildren : Bool) {scene : Scene}
    (holds : scene.Holds property) : ((clone handle withChildren).after scene).Holds property := by
  have same : (clone handle withChildren).after scene =
      (copyDown (if withChildren then scene.size else 0) handle).after scene := by
    simp only [after, clone, EStateM.run_bind, EStateM.run_get]
  rw [same]
  exact holds_after_copyDown _ handle holds

end Edit

/-! ### Runs -/

namespace Operation

/-- An operation brings no payload without the property into a scene with it. -/
def Brings (property : Payload → Prop) : Operation → Prop
  | create name bag => property (.create name bag)
  | insert payload => property payload
  | update _ bag => ∀ payload, property payload → property (payload.update bag)
  | _ => True

/-- One operation keeps a property of all payloads if it does not bring others. -/
theorem Brings.after {property : Payload → Prop} {operation : Operation}
    (brings : operation.Brings property) {scene : Scene} (holds : scene.Holds property) :
    (operation.after scene).Holds property := by
  have effect := operation.effect_after scene
  generalize reached : operation.after scene = later at effect ⊢
  cases effect with
  | refused => exact holds
  | create name bag => exact holds.withNode brings
  | insert payload => exact holds.withNode brings
  | update found bag =>
    exact holds.setNode (Arena.contains_of_get? found) (brings _ (holds.of_get? found))
  | clone =>
    rw [← reached]
    exact Edit.holds_after_clone _ _ holds
  | append live found => exact holds.setList _ _
  | insertBefore live found before => exact holds.setList _ _
  | remove found child => exact holds.setList _ _
  | clear => exact holds
  | prune => exact holds.pruned

/-- So do several operations, one after the other. -/
theorem holds_afterAll {property : Payload → Prop} {operations : List Operation}
    (brings : ∀ operation ∈ operations, operation.Brings property) {scene : Scene}
    (holds : scene.Holds property) : (afterAll scene operations).Holds property := by
  induction operations generalizing scene with
  | nil => exact holds
  | cons operation rest inductionHypothesis =>
    obtain ⟨first, later⟩ := List.forall_mem_cons.mp brings
    exact inductionHypothesis later (first.after holds)

/-! ### Finite numbers -/

/-- What an operation brings comes from JSON, which has finite numbers only: its bag is a JSON
object, and its payload was read from JSON. -/
def IsFed : Operation → Prop
  | create _ bag => AllFinite bag
  | insert payload => ∃ json, AllFinite json ∧ Payload.ofJson json = .ok payload
  | update _ bag => AllFinite bag
  | _ => True

theorem IsFed.brings {operation : Operation} (fed : operation.IsFed) :
    operation.Brings AllFinite := by
  cases operation with
  | create name bag => exact Payload.allFinite_create name fed
  | insert payload =>
    obtain ⟨json, finite, read⟩ := fed
    exact Payload.allFinite_of_ofJson finite read
  | update handle bag => exact fun payload finite => Payload.allFinite_update finite fed
  | createText | clone | append | insertBefore | remove | clear | prune => trivial

end Operation

namespace Scene

open Source

/-- Operations that bring only what was read from JSON bring no other numbers than finite ones into
a scene. After every operation, each number in a field of each node is finite, and so its numeral is
a decimal literal and no word for an infinity or for what is not a number. In the text stand
numerals of finite numbers only: it does not depend on how others would be written. -/
theorem numbers_of_isFed {operations : List Operation}
    (fed : ∀ operation ∈ operations, operation.IsFed) (count : Nat) :
    (∀ handle payload,
      (Operation.afterAll .empty (operations.take count)).payload? handle = some payload →
      ∀ number ∈ HasNumbers.numbers payload, number.isFinite ∧
        ((numeral number).toList ∈ Pattern.fixed.matches' ∨
          (numeral number).toList ∈ Pattern.scientific.matches') ∧
        numeral number ∉ nonfinite) ∧
    ∀ write : Binary64 → String,
      (∀ number : Binary64, number.isFinite → write number = numeral number) →
      (Operation.afterAll .empty (operations.take count)).textWith write =
        (Operation.afterAll .empty (operations.take count)).text := by
  have holds : (Operation.afterAll .empty (operations.take count)).Holds AllFinite :=
    Operation.holds_afterAll
      (fun operation member => (fed operation (List.mem_of_mem_take member)).brings) holds_empty
  refine ⟨fun handle payload found number member => ?_, fun write agree =>
    textWith_eq holds.solids agree⟩
  have finite : number.isFinite := holds handle payload found number member
  exact ⟨finite, mem_fixed_or_scientific finite, fun word =>
    numeral_mem_nonfinite_iff.mp word finite⟩

/-- A cylinder that is made from loose values, and a scaling that was read. The values without a
meaning for their fields give the fallbacks, once the default and once the bottom radius. -/
def widened : List Operation :=
  [.create "cylinder" [("h", .array []), ("r", .number (.whole 7))],
    .insert (.scale (.uniform (.number .one))),
    .update ⟨1, 1⟩ [("r2", .object []), ("$fn", .bool true)],
    .append (.under ⟨2, 1⟩) ⟨1, 1⟩,
    .clone ⟨2, 1⟩ true,
    .append .top ⟨4, 1⟩]

/-- All of its bags are JSON, and the scaling was read. -/
theorem isFed_widened : ∀ operation ∈ widened, operation.IsFed := by
  have read : Payload.ofJson (.object [("kind", .string "scale"), ("v", .number (.binary .one))]) =
      .ok (.scale (.uniform (.number .one))) := rfl
  simp only [widened, List.forall_mem_cons, Operation.IsFed, true_and]
  refine ⟨?_, ⟨_, ?_, read⟩, ?_, List.forall_mem_nil _⟩
  · unfold AllFinite
    decide
  · unfold AllFinite
    decide
  · unfold AllFinite
    decide

/-- The copy of the cylinder is below the copy of the scaling, and the text shows its numbers. -/
theorem numbers_of_isFed_widened :
    (∀ operation ∈ widened, operation.IsFed) ∧
    (∃ payload, (Operation.afterAll .empty (widened.take 5)).payload? ⟨3, 1⟩ = some payload ∧
      ∀ number ∈ HasNumbers.numbers payload, number.isFinite) ∧
    (Operation.afterAll .empty (widened.take 6)).textWith
        (fun number => if number.isFinite then numeral number else "?") =
      "// Generated using scadgen\n\nscale(1) \x7b\n  cylinder(h = 1, r1 = 7, r2 = 7, " ++
        "$fn = 1);\n\x7d" := by
  refine ⟨isFed_widened, ?_, ?_⟩
  · have live : (Operation.afterAll .empty (widened.take 5)).contains ⟨3, 1⟩ := by decide +kernel
    obtain ⟨node, found⟩ := Arena.contains_iff.mp live
    have held : (Operation.afterAll .empty (widened.take 5)).payload? ⟨3, 1⟩ = some node.payload :=
      Option.map_eq_some_iff.mpr ⟨node, found, rfl⟩
    exact ⟨node.payload, held, fun number member =>
      ((numbers_of_isFed isFed_widened 5).1 ⟨3, 1⟩ node.payload held number member).1⟩
  · rw [(numbers_of_isFed isFed_widened 6).2 _ fun number finite => if_pos finite]
    decide +kernel

end Scene

end SolidScene
