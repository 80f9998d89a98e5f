/-
This file follows the handles of a scene through a run of operations. A log lists
the handles that were issued on the way, in order, the ones that a copy uses up
inside included. No handle is ever issued twice, a handle that is no longer live
never becomes live again, and as long as it is live its node keeps its kind and,
where the kind is not known, its name.

The run is any run at all, with dead handles, failures and copies that break off in
the middle, and so the log is a relation that asks nothing of the operations. It
rests on the versions of slots: a handle of the log is live or spent, a spent handle
stays spent in every later scene, and the handle that an operation issues was
neither. That a node keeps its kind follows from what an update keeps, since a node
that is live before and after a run was live all the time.
-/
import SolidScene.Proofs.Arena.Versions
import SolidScene.Proofs.Scene.Effect

namespace SolidScene

/-! ### What a node keeps -/

namespace Payload

/-- The name of a node of an unknown kind. -/
def unknownName? : Payload → Option String
  | unknown name _ => some name
  | _ => none

/-- What no bag changes: the kind, and the name where the kind is unknown. -/
def label (payload : Payload) : Kind × Option String := (payload.kind, payload.unknownName?)

theorem label_update (payload : Payload) (bag : Props) :
    (payload.update bag).label = payload.label := by
  cases payload <;> rfl

end Payload

namespace Scene

/-! ### Scenes that come later -/

/-- One scene comes before another in a run: a spent handle stays spent, a live one stays live or
is spent then, and a node that is live in both has the same label. -/
structure Precedes (before after : Scene) : Prop where
  /-- What is spent stays spent. -/
  spent : ∀ handle, before.nodes.IsSpent handle → after.nodes.IsSpent handle
  /-- What is live stays live until it is spent. -/
  live : ∀ handle, before.contains handle → after.contains handle ∨ after.nodes.IsSpent handle
  /-- A node that stays live keeps its kind, and its name if it is unknown. -/
  label : ∀ handle old new, before.payload? handle = some old →
    after.payload? handle = some new → new.label = old.label

theorem contains_of_payload? {scene : Scene} {handle : Handle} {payload : Payload}
    (held : scene.payload? handle = some payload) : scene.contains handle := by
  obtain ⟨node, found, _⟩ := Option.map_eq_some_iff.mp held
  exact Arena.contains_of_get? found

theorem exists_payload?_of_contains {scene : Scene} {handle : Handle}
    (live : scene.contains handle) : ∃ payload, scene.payload? handle = some payload := by
  obtain ⟨node, found⟩ := Arena.contains_iff.mp live
  exact ⟨node.payload, by rw [payload?, found, Option.map_some]⟩

/-- A scene with the same nodes, whatever is at the top, comes next. -/
theorem Precedes.of_nodes_eq {before after : Scene} (same : after.nodes = before.nodes) :
    before.Precedes after where
  spent handle spent := by rwa [same]
  live handle live := Or.inl (by rwa [contains, same])
  label handle old new oldHeld newHeld := by
    rw [payload?, same] at newHeld
    cases oldHeld.symm.trans newHeld
    rfl

/-- A node that is live first and last was live in between, since a spent handle stays spent. -/
theorem Precedes.trans {before between after : Scene} (first : before.Precedes between)
    (second : between.Precedes after) : before.Precedes after where
  spent handle spent := second.spent handle (first.spent handle spent)
  live handle live := by
    rcases first.live handle live with still | spent
    · exact second.live handle still
    · exact Or.inr (second.spent handle spent)
  label handle old new oldHeld newHeld := by
    rcases first.live handle (contains_of_payload? oldHeld) with still | spent
    · obtain ⟨middle, middleHeld⟩ := exists_payload?_of_contains still
      rw [second.label handle middle new middleHeld newHeld,
        first.label handle old middle oldHeld middleHeld]
    · exact absurd (contains_of_payload? newHeld) (second.spent handle spent).not_contains

theorem precedes_withNode (scene : Scene) (node : Node) :
    scene.Precedes (scene.withNode node) where
  spent _ spent := spent.of_isBehind (Arena.isBehind_insert scene.nodes node)
  live _ live := Or.inl ((keepsNodesOf_withNode scene node).contains live)
  label handle old new oldHeld newHeld := by
    cases (payload?_withNode_of_some oldHeld node).symm.trans newHeld
    rfl

/-- Another node with the same label may take the place of a node. -/
theorem precedes_setNode {scene : Scene} {changed : Handle} {old new : Node}
    (found : scene.nodes.get? changed = some old) (same : new.payload.label = old.payload.label) :
    scene.Precedes (scene.setNode changed new) where
  spent _ spent := spent.of_isBehind (Arena.isBehind_set scene.nodes changed new)
  live _ live := Or.inl (contains_setNode_iff.mpr live)
  label handle first second firstHeld secondHeld := by
    by_cases here : handle = changed
    · subst here
      rw [payload?, get?_setNode_self (Arena.contains_of_get? found), Option.map_some,
        Option.some.injEq] at secondHeld
      rw [payload?, found, Option.map_some, Option.some.injEq] at firstHeld
      rw [← firstHeld, ← secondHeld, same]
    · rw [payload?, get?_setNode_of_ne here] at secondHeld
      cases firstHeld.symm.trans secondHeld
      rfl

theorem precedes_setList (scene : Scene) (site : Site) (list : List Handle) :
    scene.Precedes (scene.setList site list) := by
  cases site with
  | top => exact Precedes.of_nodes_eq rfl
  | under parent =>
    rw [setList]
    split
    case h_1 node found => exact precedes_setNode found rfl
    case h_2 => exact Precedes.of_nodes_eq rfl

/-- In the pruned scene the handles that were freed are spent. -/
theorem precedes_pruned (scene : Scene) : scene.Precedes scene.pruned where
  spent _ spent := spent.of_isBehind (Arena.isBehind_retain scene.nodes _)
  live handle live := by
    by_cases stays : scene.reachable.contains handle
    · exact Or.inl (Arena.contains_retain_iff.mpr ⟨live, stays⟩)
    · exact Or.inr (Arena.isSpent_retain live stays)
  label handle old new oldHeld newHeld := by
    have attached := (contains_pruned_iff.mp (contains_of_payload? newHeld)).2
    rw [payload?, get?_pruned_of_isAttached attached] at newHeld
    cases oldHeld.symm.trans newHeld
    rfl

/-- What a copy leaves behind comes later, wherever it breaks off. -/
theorem Accretes.precedes {before after : Scene} {roots issued : List Handle}
    (accretes : before.Accretes after roots issued) : before.Precedes after := by
  induction accretes with
  | nil scene => exact Precedes.of_nodes_eq rfl
  | append _ _ firstPrecedes secondPrecedes => exact firstPrecedes.trans secondPrecedes
  | withNode _ payload belowPrecedes => exact belowPrecedes.trans (precedes_withNode _ _)

/-- Every operation leads to a scene that comes later. -/
theorem precedes_after (scene : Scene) (operation : Operation) :
    scene.Precedes (operation.after scene) := by
  generalize result : operation.after scene = after
  have effect : operation.Effect scene after := result ▸ operation.effect_after scene
  cases effect with
  | refused => exact Precedes.of_nodes_eq rfl
  | create name bag => exact precedes_withNode scene _
  | insert payload => exact precedes_withNode scene _
  | update found bag => exact precedes_setNode found (Payload.label_update _ bag)
  | clone accretes => exact accretes.precedes
  | append live found => exact precedes_setList scene _ _
  | insertBefore live found before => exact precedes_setList scene _ _
  | remove found child => exact precedes_setList scene _ _
  | clear => exact Precedes.of_nodes_eq rfl
  | prune => exact precedes_pruned scene

/-- So does a whole run. -/
theorem precedes_afterAll (scene : Scene) (operations : List Operation) :
    scene.Precedes (Operation.afterAll scene operations) := by
  induction operations generalizing scene with
  | nil => exact Precedes.of_nodes_eq rfl
  | cons operation rest inductionHypothesis =>
    exact (precedes_after scene operation).trans (inductionHypothesis _)

end Scene

/-! ### The log of a run -/

namespace Operation

open Scene

/-- Whether an operation adds nodes, unless it is refused. -/
def adds : Operation → Bool
  | create .. | insert _ | clone .. => true
  | createText _ | update .. | append .. | insertBefore .. | remove .. | clear | prune => false

/-- The handles that an operation issues, in order: those of the nodes that it adds. -/
def Issues (scene : Scene) (operation : Operation) (issued : List Handle) : Prop :=
  if operation.adds then ∃ roots, scene.Accretes (operation.after scene) roots issued
  else issued = []

/-- Every operation issues some handles, if only none. -/
theorem exists_issues (scene : Scene) (operation : Operation) :
    ∃ issued, operation.Issues scene issued := by
  cases operation with
  | create name bag => exact ⟨_, _, Accretes.leaf scene _⟩
  | insert payload => exact ⟨_, _, Accretes.leaf scene _⟩
  | clone handle withChildren =>
    obtain ⟨roots, issued, accretes⟩ := (Edit.onlyAdds_clone handle withChildren).after scene
    exact ⟨issued, roots, accretes⟩
  | createText | update | append | insertBefore | remove | clear | prune => exact ⟨[], rfl⟩

/-- An operation that adds no node makes no handle live. -/
theorem contains_of_contains_after {scene : Scene} {operation : Operation}
    (none : operation.adds = false) {handle : Handle}
    (live : (operation.after scene).contains handle) : scene.contains handle := by
  revert live
  generalize result : operation.after scene = after
  intro live
  have effect : operation.Effect scene after := result ▸ operation.effect_after scene
  cases effect with
  | refused => exact live
  | create | insert | clone => simp [adds] at none
  | update found bag => exact contains_setNode_iff.mp live
  | append childLive found => exact contains_setList_iff.mp live
  | insertBefore childLive found before => exact contains_setList_iff.mp live
  | remove found child => exact contains_setList_iff.mp live
  | clear => exact live
  | prune => exact (contains_pruned_iff.mp live).1

variable {scene : Scene} {operation : Operation} {issued : List Handle}

theorem Issues.nodup (issues : operation.Issues scene issued) : issued.Nodup := by
  unfold Issues at issues
  split at issues
  · obtain ⟨roots, accretes⟩ := issues
    exact accretes.nodup_issued
  · exact issues ▸ List.nodup_nil

/-- The handles that an operation issues are those that become live. -/
theorem Issues.mem_iff (issues : operation.Issues scene issued) {handle : Handle} :
    handle ∈ issued ↔ (operation.after scene).contains handle ∧ ¬ scene.contains handle := by
  unfold Issues at issues
  split at issues
  case isTrue adds =>
    obtain ⟨roots, accretes⟩ := issues
    rw [accretes.contains_iff]
    constructor
    · exact fun member => ⟨Or.inr member, accretes.not_contains_of_mem member⟩
    · exact fun ⟨live, fresh⟩ => live.resolve_left fresh
  case isFalse none =>
    subst issues
    have old (live : (operation.after scene).contains handle) : scene.contains handle :=
      contains_of_contains_after (by simpa using none) live
    simpa using old

end Operation

namespace Scene

/-- A scene that arises from the empty one by operations, whatever they are, with the handles
that were issued on the way, in order. -/
inductive IsLogged : Scene → List Handle → Prop where
  | empty : IsLogged .empty []
  | step {scene : Scene} {history issued : List Handle} (logged : IsLogged scene history)
    (operation : Operation) (issues : operation.Issues scene issued) :
    IsLogged (operation.after scene) (history ++ issued)

/-- A handle of the log is live or spent. -/
theorem IsLogged.contains_or_isSpent {scene : Scene} {history : List Handle}
    (logged : scene.IsLogged history) {handle : Handle} (member : handle ∈ history) :
    scene.contains handle ∨ scene.nodes.IsSpent handle := by
  induction logged with
  | empty => exact absurd member List.not_mem_nil
  | @step before _ _ _ operation issues inductionHypothesis =>
    have precedes := precedes_after before operation
    rcases List.mem_append.mp member with early | late
    · rcases inductionHypothesis early with live | spent
      · exact precedes.live handle live
      · exact Or.inr (precedes.spent handle spent)
    · exact Or.inl (issues.mem_iff.mp late).1

/-- Every live handle is in the log. -/
theorem IsLogged.mem_of_contains {scene : Scene} {history : List Handle}
    (logged : scene.IsLogged history) {handle : Handle} (live : scene.contains handle) :
    handle ∈ history := by
  induction logged with
  | empty => simp [contains, Arena.contains, Scene.empty] at live
  | @step before _ _ _ operation issues inductionHypothesis =>
    by_cases old : before.contains handle
    · exact List.mem_append_left _ (inductionHypothesis old)
    · exact List.mem_append_right _ (issues.mem_iff.mpr ⟨live, old⟩)

/-- What an operation issues was not issued before: a handle of the log is live already, or it
is spent and does not become live. -/
theorem IsLogged.not_mem_of_issues {scene : Scene} {history issued : List Handle}
    (logged : scene.IsLogged history) {operation : Operation}
    (issues : operation.Issues scene issued) {handle : Handle} (member : handle ∈ issued) :
    handle ∉ history := by
  obtain ⟨live, fresh⟩ := issues.mem_iff.mp member
  intro early
  have spent := (logged.contains_or_isSpent early).resolve_left fresh
  exact ((precedes_after scene operation).spent handle spent).not_contains live

/-- No handle is issued twice in a run. -/
theorem IsLogged.nodup {scene : Scene} {history : List Handle}
    (logged : scene.IsLogged history) : history.Nodup := by
  induction logged with
  | empty => exact List.nodup_nil
  | step logged operation issues inductionHypothesis =>
    refine List.nodup_append.mpr ⟨inductionHypothesis, issues.nodup, ?_⟩
    rintro early earlyMember late lateMember rfl
    exact logged.not_mem_of_issues issues lateMember earlyMember

/-- A handle of the log that is no longer live never becomes live again. -/
theorem IsLogged.not_contains_afterAll {scene : Scene} {history : List Handle}
    (logged : scene.IsLogged history) {handle : Handle} (member : handle ∈ history)
    (dead : ¬ scene.contains handle) (operations : List Operation) :
    ¬ (Operation.afterAll scene operations).contains handle := by
  have spent := (logged.contains_or_isSpent member).resolve_left dead
  exact ((precedes_afterAll scene operations).spent handle spent).not_contains

/-- The log of a run goes on where it ended. -/
theorem IsLogged.afterAll {scene : Scene} {history : List Handle}
    (logged : scene.IsLogged history) (operations : List Operation) :
    ∃ later, (Operation.afterAll scene operations).IsLogged (history ++ later) := by
  induction operations generalizing scene history with
  | nil => exact ⟨[], by simpa [Operation.afterAll] using logged⟩
  | cons operation rest inductionHypothesis =>
    obtain ⟨issued, issues⟩ := operation.exists_issues scene
    obtain ⟨later, restLogged⟩ := inductionHypothesis (logged.step operation issues)
    exact ⟨issued ++ later, by simpa [Operation.afterAll] using restLogged⟩

/-- Handles are never confused. Creating and inserting a node answers with the handle that it
issues, and a clone with one of those that it issues; an operation issues the handles that become
live, all of them different from each other and from every handle that was issued before, whether
that one is live or not. Every live handle was issued, and one that is no longer live never
becomes live again, so that a handle freed by pruning stays dead. As long as a handle is live, its
node keeps its kind and, where the kind is not known, its name. -/
theorem handles_never_confused {scene : Scene} {history : List Handle}
    (logged : scene.IsLogged history) :
    (∀ name bag, ∃ handle after, (Edit.create name bag).run scene = .ok handle after ∧
      (Operation.create name bag).Issues scene [handle]) ∧
    (∀ payload, ∃ handle after, (Edit.insert payload).run scene = .ok handle after ∧
      (Operation.insert payload).Issues scene [handle]) ∧
    (∀ source withChildren copy after,
      (Edit.clone source withChildren).run scene = .ok copy after →
        ∃ issued, (Operation.clone source withChildren).Issues scene issued ∧ copy ∈ issued) ∧
    (∀ operation : Operation, ∃ issued, operation.Issues scene issued) ∧
    (∀ (operation : Operation) issued, operation.Issues scene issued →
      (history ++ issued).Nodup ∧
        ∀ handle, handle ∈ issued ↔
          (operation.after scene).contains handle ∧ ¬ scene.contains handle) ∧
    (∀ handle, scene.contains handle → handle ∈ history) ∧
    (∀ handle ∈ history, ¬ scene.contains handle → ∀ operations,
      ¬ (Operation.afterAll scene operations).contains handle) ∧
    (∀ handle, scene.contains handle → ¬ scene.pruned.contains handle → ∀ operations,
      ¬ (Operation.afterAll scene (.prune :: operations)).contains handle) ∧
    ∀ operations handle old new, scene.payload? handle = some old →
      (Operation.afterAll scene operations).payload? handle = some new →
        new.kind = old.kind ∧ new.unknownName? = old.unknownName? := by
  refine ⟨fun name bag => ⟨_, _, Edit.run_create scene name bag, _, Accretes.leaf scene _⟩,
    fun payload => ⟨_, _, Edit.run_insert scene payload, _, Accretes.leaf scene _⟩, ?_,
    fun operation => operation.exists_issues scene, ?_, fun _ => logged.mem_of_contains,
    fun _ => logged.not_contains_afterAll, ?_, ?_⟩
  · intro source withChildren copy after run
    obtain ⟨issued, accretes⟩ := (Edit.onlyAdds_clone source withChildren).of_ok run
    refine ⟨issued, ⟨[copy], ?_⟩, accretes.mem_issued_of_mem List.mem_cons_self⟩
    rw [Operation.after, Edit.after_of_ok run]
    exact accretes
  · intro operation issued issues
    exact ⟨(logged.step operation issues).nodup, fun handle => issues.mem_iff⟩
  · intro handle live freed operations
    obtain ⟨issued, issues⟩ := Operation.prune.exists_issues scene
    have member := List.mem_append_left issued (logged.mem_of_contains live)
    exact (logged.step .prune issues).not_contains_afterAll member freed operations
  · intro operations handle old new oldHeld newHeld
    have same := (precedes_afterAll scene operations).label handle old new oldHeld newHeld
    exact Prod.mk.inj same

/-- In the scene with the twins the loose node is freed by pruning, and its handle is dead after
whatever follows, although the next node takes its slot. The node at the top stays a union, and a
clone of it gets handles that are not in the log. -/
theorem handles_never_confused_twins :
    ∃ history, twins.IsLogged history ∧ twins.contains ⟨3, 1⟩ ∧
      (∀ operations, ¬ (Operation.afterAll twins (.prune :: operations)).contains ⟨3, 1⟩) ∧
      (Operation.afterAll twins [.prune, .insert .group]).contains ⟨3, 3⟩ ∧
      (∃ issued, (Operation.clone ⟨1, 1⟩ true).Issues twins issued ∧
        (history ++ issued).Nodup) ∧
      ∀ operations payload, (Operation.afterAll twins operations).payload? ⟨1, 1⟩ = some payload →
        payload.kind = .union := by
  have logged : ∃ history, twins.IsLogged history :=
    IsLogged.empty.afterAll [.insert .union, .insert .group, .insert .difference,
      .append (.under ⟨1, 1⟩) ⟨2, 1⟩, .insertBefore (.under ⟨1, 1⟩) ⟨2, 1⟩ ⟨2, 1⟩,
      .append .top ⟨1, 1⟩]
  obtain ⟨history, logged⟩ := logged
  obtain ⟨_, _, _, issues, fresh, _, _, freed, labels⟩ := handles_never_confused logged
  obtain ⟨issued, cloned⟩ := issues (.clone ⟨1, 1⟩ true)
  have live : twins.contains ⟨3, 1⟩ := by cbv
  have gone : twins.pruned.contains ⟨3, 1⟩ = false := by cbv
  refine ⟨history, logged, live, freed _ live (by simp [gone]), by cbv,
    ⟨issued, cloned, (fresh _ _ cloned).1⟩, ?_⟩
  intro operations payload held
  exact (labels operations ⟨1, 1⟩ .union payload (by cbv) held).1

end Scene

end SolidScene
