/-
This file lists the operations that mounting a document calls and shows that they
keep to the contract of a forest. A node is put into its list when nothing but its
own children has been added since it was created, so it has no place yet, and all
that it reaches is new, the node of its list not among it. This holds up to the text
that ends the mounting, wherever that is.

The contract is the one of those who edit a scene: a node is put only where it makes
no second place and no cycle. Whoever keeps to it has a forest after every run, and
mounting is shown to be such a run, so that documents may be mounted among other
edits without looking into them. The list of calls depends on the scene, since the
handle of a new node does; the two are built up together, along the parts of the
document.
-/
import SolidScene.Proofs.Document.Mounting
import SolidScene.Proofs.Scene.Contract

namespace SolidScene

namespace Part

/-! ### The calls of a mounting -/

mutual

/-- The operations that mounting a part calls, in order. The one for a text fails, and so a node
above a text is not put into its list. -/
def calls (scene : Scene) (site : Site) : Part → List Operation
  | .text content => [.createText content]
  | .node name props children =>
    let handle := scene.freshHandle ⟨.create name props, []⟩
    .create name props ::
      (callsAll (scene.withNode ⟨.create name props, []⟩) (.under handle) children ++
        if firstText? children = none then [.append site handle] else [])

/-- The operations that mounting parts calls, in order, up to the first text. -/
def callsAll (scene : Scene) (site : Site) : List Part → List Operation
  | [] => []
  | part :: rest =>
    part.calls scene site ++
      if part.isTextFree then
        callsAll (Operation.afterAll scene (part.calls scene site)) site rest
      else []

end

section

variable {scene : Scene} {site : Site} {name : String} {props : Props} {children rest : List Part}

/-- The handle that is created is not put into its list where there is a text below it. -/
theorem callsAll_node_of_text (text : firstText? children ≠ none) :
    callsAll scene site (.node name props children :: rest) =
      .create name props :: callsAll (scene.withNode ⟨.create name props, []⟩)
        (.under (scene.freshHandle ⟨.create name props, []⟩)) children := by
  have torn : ¬ (Part.node name props children).isTextFree := fun free =>
    text (isTextFree_node_iff.mp free)
  rw [callsAll, calls, if_neg text, if_neg torn, List.append_nil, List.append_nil]

/-- A node without a text below it is followed by the calls of the parts after it. -/
theorem callsAll_node (none : firstText? children = none) :
    callsAll scene site (.node name props children :: rest) =
      (Part.node name props children).calls scene site ++
        callsAll (Operation.afterAll scene ((Part.node name props children).calls scene site))
          site rest := by
  rw [callsAll, if_pos (isTextFree_node_iff.mpr none)]

/-- The calls of a node without a text below it: it is created, its children are mounted, and it is
put into its list. -/
theorem calls_node (none : firstText? children = none) :
    (Part.node name props children).calls scene site =
      .create name props :: (callsAll (scene.withNode ⟨.create name props, []⟩)
        (.under (scene.freshHandle ⟨.create name props, []⟩)) children ++
          [.append site (scene.freshHandle ⟨.create name props, []⟩)]) := by
  rw [calls, if_pos none]

end

end Part

namespace Edit

open Scene

theorem after_of_mountEnd {edit : Edit Unit} {scene after : Scene} {text : Option String}
    (run : edit.run scene = mountEnd text after) : edit.after scene = after := by
  cases text with
  | none => exact after_of_ok run
  | some content => exact after_of_error run

section

variable {scene : Scene} {site : Site} {list : List Handle} {name : String} {props : Props}
  {children rest : List Part}

/-- The list of a node that was just created is empty. -/
theorem list?_withNode_self (scene : Scene) (payload : Payload) :
    (scene.withNode ⟨payload, []⟩).list? (.under (scene.freshHandle ⟨payload, []⟩)) = some [] := by
  rw [list?, get?_withNode_self, Option.map_some]

/-- A text below a node ends the mounting with what the children have left behind. -/
theorem after_mountAll_node_of_text (closed : scene.IsClosed)
    (text : Part.firstText? children ≠ none) :
    (mountAll site (.node name props children :: rest)).after scene =
      (mountAll (.under (scene.freshHandle ⟨.create name props, []⟩)) children).after
        (scene.withNode ⟨.create name props, []⟩) := by
  obtain ⟨_, _, between, run, _⟩ := run_mountAll children
    (closed.withNode fun _ member => absurd member List.not_mem_nil)
    (list?_withNode_self scene (.create name props))
  obtain ⟨content, first⟩ := Option.ne_none_iff_exists'.mp text
  rw [after_of_mountEnd run, Edit.after, mountAll_node, EStateM.run_bind, run_create]
  simp only [EStateM.run_bind, run, first, mountEnd]

/-- Without a text below a node the node is put into its list next, which has become longer by
nothing else, and then the parts after it are mounted. The node has no place before that, and does
not reach the node of its list. -/
theorem after_mountAll_node (closed : scene.IsClosed) (found : scene.list? site = some list)
    (none : Part.firstText? children = none) :
    ∃ between, (mountAll (.under (scene.freshHandle ⟨.create name props, []⟩)) children).after
        (scene.withNode ⟨.create name props, []⟩) = between ∧
      (Operation.append site (scene.freshHandle ⟨.create name props, []⟩)).IsTidy between ∧
      ((Operation.append site (scene.freshHandle ⟨.create name props, []⟩)).after between).list?
        site = some (list ++ [scene.freshHandle ⟨.create name props, []⟩]) ∧
      (mountAll site (.node name props children :: rest)).after scene =
        (mountAll site rest).after
          ((Operation.append site (scene.freshHandle ⟨.create name props, []⟩)).after between) := by
  obtain ⟨_, _, between, run, mounted⟩ := run_mountAll children
    (closed.withNode fun _ member => absurd member List.not_mem_nil)
    (list?_withNode_self scene (.create name props))
  have grows := mounted.filled.grows_freshHandle
  have place := mounted.filled.list?_of_before found
  have added := run_append (grows.live_of_mem List.mem_cons_self) place
  refine ⟨between, after_of_mountEnd run, ⟨?_, ?_⟩, ?_, ?_⟩
  · have alone := (mounted.placed none).kept _ (contains_withNode_iff.mpr (Or.inl rfl))
    rw [alone, occurrences_withNode, List.count_nil, Nat.zero_add]
    exact closed.occurrences_of_dead (not_contains_freshHandle scene _)
  · rintro parent rfl path
    obtain ⟨payload, held⟩ := exists_node_of_list? found
    exact grows.fresh _ List.mem_cons_self parent path (Arena.contains_of_get? held)
  · rw [Operation.after, after_of_ok added, list?_setList_self place]
  · rw [Operation.after, after_of_ok added, Edit.after, Edit.after, mountAll_node,
      EStateM.run_bind, run_create]
    simp only [EStateM.run_bind, run, none, mountEnd, added]

end

/-- Mounting parts is what its calls are, and they keep to the contract. The induction is on the
parts: the calls for the children follow the creation of their node, and the node is put into its
list after them. -/
theorem after_mountAll (parts : List Part) {scene : Scene} (forest : scene.IsForest) {site : Site}
    {list : List Handle} (found : scene.list? site = some list) :
    (mountAll site parts).after scene =
        Operation.afterAll scene (Part.callsAll scene site parts) ∧
      Operation.AreTidy scene (Part.callsAll scene site parts) := by
  induction parts using Part.list_induction generalizing scene site list with
  | nil => exact ⟨rfl, trivial⟩
  | text content rest _ => exact ⟨rfl, trivial, trivial⟩
  | node name props children rest childrenHypothesis restHypothesis =>
    obtain ⟨below, belowTidy⟩ := childrenHypothesis (forest.withLeaf (.create name props))
      (list?_withNode_self scene (.create name props))
    by_cases none : Part.firstText? children = none
    · obtain ⟨between, reached, tidy, attached, further⟩ :=
        after_mountAll_node forest.closed found none
      rw [below] at reached
      have front : Operation.afterAll scene ((Part.node name props children).calls scene site) =
          (Operation.append site (scene.freshHandle ⟨.create name props, []⟩)).after between := by
        rw [Part.calls_node none, ← reached]
        exact Operation.afterAll_append _ _ _
      have frontTidy :
          Operation.AreTidy scene ((Part.node name props children).calls scene site) := by
        rw [Part.calls_node none]
        exact ⟨trivial, Operation.areTidy_append.mpr ⟨belowTidy, reached ▸ tidy, trivial⟩⟩
      obtain ⟨later, laterTidy⟩ := restHypothesis (front ▸ forest.afterAll frontTidy) attached
      rw [further, later, Part.callsAll_node none, Operation.afterAll_append, front]
      exact ⟨rfl, Operation.areTidy_append.mpr ⟨frontTidy, front ▸ laterTidy⟩⟩
    · rw [after_mountAll_node_of_text forest.closed none, Part.callsAll_node_of_text none]
      exact ⟨below, trivial, belowTidy⟩

end Edit

namespace Scene

/-- Forests stay forests. Whatever operations are run from the empty scene on, as long as they keep
to the contract, no handle has two places in the lists of the scene that they leave behind, and no
node of it is below itself. Mounting a document into a forest, whether it fails or not, is a run
that keeps to the contract, so it leaves a forest behind as well.

In a forest a path down has at most as many nodes as the scene. So all that goes down along the
lists comes to an end: every live node unfolds, its text and its report entry are those of its
solid, and a copy of all that is below it succeeds; and neither the unfolding nor the copy would be
another one with a larger bound on the depth. -/
theorem forest_of_areTidy :
    (∀ operations scene, Operation.AreTidy .empty operations →
      Operation.afterAll .empty operations = scene →
        scene.IsForest ∧ (∀ handle, scene.occurrences handle ≤ 1) ∧
          ∀ handle, ¬ scene.IsAbove handle handle) ∧
    (∀ scene document, scene.IsForest →
      (Edit.mount document).after scene =
        Operation.afterAll scene (Part.callsAll scene .top document.parts) ∧
      Operation.AreTidy scene (Part.callsAll scene .top document.parts) ∧
      ((Edit.mount document).after scene).IsForest) ∧
    ∀ scene, scene.IsForest →
      (∀ root path, scene.contains root → (root :: path).IsChain scene.IsChild →
        (root :: path).length ≤ scene.size) ∧
      (∀ handle, scene.contains handle → ∃ solid, scene.Unfolds handle solid ∧
        (∀ indent, scene.source indent handle = solid.source indent) ∧
        scene.entryAt? handle = some (Entry.ofSolid solid) ∧
        ∃ copy after, (Edit.clone handle true).run scene = .ok copy after) ∧
      ∀ handle depth, scene.size ≤ depth →
        scene.unfold depth handle = scene.solid? handle ∧
        (Edit.copyDown depth handle).run scene = (Edit.clone handle true).run scene := by
  refine ⟨?_, ?_, ?_⟩
  · rintro operations scene tidy rfl
    have forest := isForest_empty.afterAll tidy
    exact ⟨forest, forest.single, forest.acyclic⟩
  · intro scene document forest
    obtain ⟨same, tidy⟩ :=
      Edit.after_mountAll document.parts forest (rfl : scene.list? .top = some scene.top)
    refine ⟨same, tidy, ?_⟩
    rw [Edit.mount, same]
    exact forest.afterAll tidy
  · intro scene forest
    refine ⟨fun root path live chain => forest.length_le_size live chain, ?_, ?_⟩
    · intro handle live
      obtain ⟨solid, unfolds⟩ := forest.exists_unfolds live
      obtain ⟨copy, after, run, _⟩ := Edit.run_clone forest.closed unfolds
      exact ⟨solid, unfolds, unfolds.source_eq, unfolds.entryAt?_eq, copy, after, run⟩
    · intro handle depth enough
      exact ⟨forest.unfold_eq handle enough, Edit.run_copyDown_eq_clone forest handle enough⟩

/-- Operations that keep to the contract: a tree is cloned, the clone takes its place at the top,
the original is freed, and the clone is put below a new node in one of the slots that are free. -/
def regrowth : List Operation :=
  [.insert .union, .insert .group, .append (.under ⟨1, 1⟩) ⟨2, 1⟩, .append .top ⟨1, 1⟩,
    .clone ⟨1, 1⟩ true, .remove .top ⟨1, 1⟩, .append .top ⟨4, 1⟩, .prune, .insert .difference,
    .remove .top ⟨4, 1⟩, .append (.under ⟨2, 3⟩) ⟨4, 1⟩, .append .top ⟨2, 3⟩]

/-- The operations keep to the contract, each in the scene that the ones before leave. -/
theorem areTidy_regrowth : Operation.AreTidy .empty regrowth := by
  -- Two of the children go below a node, and neither of them reaches that node.
  have first : ¬ (Operation.afterAll .empty (regrowth.take 2)).Reaches ⟨2, 1⟩ ⟨1, 1⟩ := by
    have leaf : (Operation.afterAll .empty (regrowth.take 2)).children ⟨2, 1⟩ = [] := by cbv
    exact not_reaches_of_children (by decide) (by simp [leaf])
  have second : ¬ (Operation.afterAll .empty (regrowth.take 10)).Reaches ⟨4, 1⟩ ⟨2, 3⟩ := by
    have leaf : (Operation.afterAll .empty (regrowth.take 10)).children ⟨3, 1⟩ = [] := by cbv
    have single : (Operation.afterAll .empty (regrowth.take 10)).children ⟨4, 1⟩ = [⟨3, 1⟩] := by
      cbv
    refine not_reaches_of_children (by decide) fun lower member => ?_
    rw [single, List.mem_singleton] at member
    subst member
    exact not_reaches_of_children (by decide) (by simp [leaf])
  refine ⟨trivial, trivial, ⟨by cbv, ?_⟩, ⟨by cbv, ?_⟩, trivial, trivial, ⟨by cbv, ?_⟩, trivial,
    trivial, trivial, ⟨by cbv, ?_⟩, ⟨by cbv, ?_⟩, trivial⟩
  · rintro parent ⟨⟩
    exact first
  · rintro parent ⟨⟩
  · rintro parent ⟨⟩
  · rintro parent ⟨⟩
    exact second
  · rintro parent ⟨⟩

/-- The operations leave a forest of three nodes behind, and so does mounting a document with a
text into it, which fails. -/
theorem forest_of_areTidy_regrowth :
    ∃ scene, Operation.afterAll .empty regrowth = scene ∧ scene.IsForest ∧
      scene.IsChild ⟨2, 3⟩ ⟨4, 1⟩ ∧ scene.IsChild ⟨4, 1⟩ ⟨3, 1⟩ ∧
      ([⟨2, 3⟩, ⟨4, 1⟩, ⟨3, 1⟩] : List Handle).length ≤ scene.size ∧
      ((Edit.mount torn).after scene).IsForest ∧
      ∃ copy after, (Edit.clone ⟨2, 3⟩ true).run scene = .ok copy after := by
  obtain ⟨runs, mounting, descent⟩ := forest_of_areTidy
  obtain ⟨forest, _, _⟩ := runs regrowth _ areTidy_regrowth rfl
  obtain ⟨paths, ends, _⟩ := descent _ forest
  have first : (Operation.afterAll .empty regrowth).children ⟨2, 3⟩ = [⟨4, 1⟩] := by cbv
  have second : (Operation.afterAll .empty regrowth).children ⟨4, 1⟩ = [⟨3, 1⟩] := by cbv
  have live : (Operation.afterAll .empty regrowth).contains ⟨2, 3⟩ := by cbv
  have upper : (Operation.afterAll .empty regrowth).IsChild ⟨2, 3⟩ ⟨4, 1⟩ := by
    rw [IsChild, first]
    exact List.mem_cons_self
  have lower : (Operation.afterAll .empty regrowth).IsChild ⟨4, 1⟩ ⟨3, 1⟩ := by
    rw [IsChild, second]
    exact List.mem_cons_self
  obtain ⟨_, _, _, _, copied⟩ := ends ⟨2, 3⟩ live
  refine ⟨_, rfl, forest, upper, lower, paths ⟨2, 3⟩ _ live ?_, (mounting _ torn forest).2.2,
    copied⟩
  exact List.isChain_cons_cons.mpr ⟨upper, List.isChain_cons_cons.mpr ⟨lower, by simp⟩⟩

end Scene

end SolidScene
