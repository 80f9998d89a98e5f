/-
This file says once what an operation can do to a scene, so that what every
operation keeps is seen by going through a short list. Most operations make one
change, or none if they are refused. A copy makes many: it adds nodes from the
leaves up, each one over the copies of its children, and it does nothing else even
where it breaks off in the middle.

That a copy adds nodes from the leaves up is a relation of its own, which also keeps
the handles that were issued, in order. It is closed under running one copy after
another and under adding a node over what was added, as the recursion of a copy
goes; so it needs neither that the copy ends well nor that the scene is free of
cycles. The list of effects carries all conditions under which a change is made, the
live handles included, and whoever wants an invariant of a run proves it for each of
them.
-/
import SolidScene.Proofs.Scene.History

namespace SolidScene

namespace Scene

/-! ### Adding nodes from the leaves up -/

/-- Nodes are added from the leaves up. The roots are the added nodes that stand in no list of
another added node; the handles that were issued are listed in the order of their nodes. -/
inductive Accretes : Scene → Scene → List Handle → List Handle → Prop where
  | nil (scene : Scene) : Accretes scene scene [] []
  | append {before between after : Scene} {roots others issued later : List Handle}
    (first : Accretes before between roots issued)
    (second : Accretes between after others later) :
    Accretes before after (roots ++ others) (issued ++ later)
  | withNode {before between : Scene} {roots issued : List Handle}
    (below : Accretes before between roots issued) (payload : Payload) :
    Accretes before (between.withNode ⟨payload, roots⟩)
      [between.freshHandle ⟨payload, roots⟩]
      (issued ++ [between.freshHandle ⟨payload, roots⟩])

theorem Accretes.leaf (scene : Scene) (payload : Payload) :
    scene.Accretes (scene.withNode ⟨payload, []⟩) [scene.freshHandle ⟨payload, []⟩]
      [scene.freshHandle ⟨payload, []⟩] :=
  (Accretes.nil scene).withNode payload

theorem Accretes.keepsNodesOf {before after : Scene} {roots issued : List Handle}
    (accretes : before.Accretes after roots issued) : after.KeepsNodesOf before := by
  induction accretes with
  | nil scene => exact KeepsNodesOf.refl scene
  | append _ _ firstKeeps secondKeeps => exact secondKeeps.trans firstKeeps
  | withNode _ payload belowKeeps => exact (keepsNodesOf_withNode _ _).trans belowKeeps

theorem Accretes.top_eq {before after : Scene} {roots issued : List Handle}
    (accretes : before.Accretes after roots issued) : after.top = before.top := by
  induction accretes with
  | nil scene => rfl
  | append _ _ firstTop secondTop => exact secondTop.trans firstTop
  | withNode _ payload belowTop => exact belowTop

/-- The handles that were issued have become live, and no others. -/
theorem Accretes.contains_iff {before after : Scene} {roots issued : List Handle}
    (accretes : before.Accretes after roots issued) {handle : Handle} :
    after.contains handle ↔ before.contains handle ∨ handle ∈ issued := by
  induction accretes with
  | nil scene => simp
  | append _ _ firstLive secondLive =>
    rw [secondLive, firstLive, List.mem_append, or_assoc]
  | withNode _ payload belowLive =>
    rw [contains_withNode_iff, belowLive, List.mem_append, List.mem_singleton, or_comm, or_assoc]

/-- The root of what was added is among the handles that were issued. -/
theorem Accretes.mem_issued_of_mem {before after : Scene} {roots issued : List Handle}
    (accretes : before.Accretes after roots issued) {root : Handle} (member : root ∈ roots) :
    root ∈ issued := by
  induction accretes with
  | nil => exact member
  | append _ _ firstIssued secondIssued =>
    exact List.mem_append.mpr ((List.mem_append.mp member).imp firstIssued secondIssued)
  | withNode => exact List.mem_append_right _ member

/-- No handle that was issued was live before. -/
theorem Accretes.not_contains_of_mem {before after : Scene} {roots issued : List Handle}
    (accretes : before.Accretes after roots issued) {handle : Handle}
    (member : handle ∈ issued) : ¬ before.contains handle := by
  induction accretes with
  | nil scene => exact absurd member List.not_mem_nil
  | append first _ firstFresh secondFresh =>
    rcases List.mem_append.mp member with early | late
    · exact firstFresh early
    · exact fun live => secondFresh late (first.contains_iff.mpr (Or.inl live))
  | withNode below payload belowFresh =>
    rcases List.mem_append.mp member with early | last
    · exact belowFresh early
    · intro live
      rw [List.mem_singleton.mp last] at live
      exact not_contains_freshHandle _ _ (below.contains_iff.mpr (Or.inl live))

/-- No handle was issued twice. -/
theorem Accretes.nodup_issued {before after : Scene} {roots issued : List Handle}
    (accretes : before.Accretes after roots issued) : issued.Nodup := by
  induction accretes with
  | nil scene => exact List.nodup_nil
  | append first second firstNodup secondNodup =>
    refine List.nodup_append.mpr ⟨firstNodup, secondNodup, ?_⟩
    rintro early earlyMember late lateMember rfl
    exact second.not_contains_of_mem lateMember (first.contains_iff.mpr (Or.inr earlyMember))
  | withNode below payload belowNodup =>
    refine List.nodup_append.mpr ⟨belowNodup, List.nodup_singleton _, ?_⟩
    rintro early earlyMember late lateMember rfl
    rw [List.mem_singleton.mp lateMember] at earlyMember
    exact not_contains_freshHandle _ _ (below.contains_iff.mpr (Or.inr earlyMember))

end Scene

namespace Edit

/-! ### Copies -/

/-- An edit only adds nodes from the leaves up, whether it succeeds or fails. Its answer tells
the roots of what it has added. -/
def OnlyAdds {α : Type} (edit : Edit α) (roots : α → List Handle) : Prop :=
  ∀ scene, match edit.run scene with
    | .ok answer after => ∃ issued, scene.Accretes after (roots answer) issued
    | .error _ after => ∃ others issued, scene.Accretes after others issued

theorem OnlyAdds.of_ok {α : Type} {edit : Edit α} {roots : α → List Handle}
    (adds : edit.OnlyAdds roots) {scene after : Scene} {answer : α}
    (run : edit.run scene = .ok answer after) :
    ∃ issued, scene.Accretes after (roots answer) issued := by
  have added := adds scene
  rwa [run] at added

/-- What such an edit leaves behind is the scene with some nodes added. -/
theorem OnlyAdds.after {α : Type} {edit : Edit α} {roots : α → List Handle}
    (adds : edit.OnlyAdds roots) (scene : Scene) :
    ∃ others issued, scene.Accretes (edit.after scene) others issued := by
  have added := adds scene
  rw [Edit.after]
  cases run : edit.run scene with
  | ok answer after =>
    rw [run] at added
    exact ⟨_, added⟩
  | error fault after =>
    rw [run] at added
    exact added

/-- Where the copy of each node only adds nodes, so do the copies of several nodes. -/
theorem onlyAdds_mapM {copy : Handle → Edit Handle}
    (each : ∀ handle, (copy handle).OnlyAdds fun root => [root]) (handles : List Handle) :
    (handles.mapM copy).OnlyAdds id := by
  induction handles with
  | nil => exact fun scene => ⟨[], Scene.Accretes.nil scene⟩
  | cons handle rest inductionHypothesis =>
    intro scene
    have first := each handle scene
    simp only [List.mapM_cons, EStateM.run_bind]
    cases run : (copy handle).run scene with
    | error fault between =>
      rw [run] at first
      exact first
    | ok root between =>
      rw [run] at first
      obtain ⟨issued, firstAdds⟩ := first
      have second := inductionHypothesis between
      simp only
      cases laterRun : (rest.mapM copy).run between with
      | error fault after =>
        rw [laterRun] at second
        obtain ⟨others, later, secondAdds⟩ := second
        exact ⟨_, _, firstAdds.append secondAdds⟩
      | ok roots after =>
        rw [laterRun] at second
        obtain ⟨later, secondAdds⟩ := second
        exact ⟨_, firstAdds.append secondAdds⟩

/-- Copying a node only adds nodes. The induction is on the depth; a node is added over the
roots that the copies of its children leave. -/
theorem onlyAdds_copyDown (depth : Nat) (handle : Handle) :
    (copyDown depth handle).OnlyAdds fun root => [root] := by
  induction depth generalizing handle with
  | zero =>
    intro scene
    by_cases live : scene.contains handle
    · obtain ⟨node, found⟩ := Arena.contains_iff.mp live
      simp only [copyDown, EStateM.run_bind, run_node found, run_insert]
      exact ⟨_, Scene.Accretes.leaf scene node.payload⟩
    · simp only [copyDown, EStateM.run_bind, run_node_of_dead live]
      exact ⟨_, _, Scene.Accretes.nil scene⟩
  | succ depth inductionHypothesis =>
    intro scene
    by_cases live : scene.contains handle
    · obtain ⟨node, found⟩ := Arena.contains_iff.mp live
      have below := onlyAdds_mapM inductionHypothesis node.children scene
      simp only [copyDown, EStateM.run_bind, run_node found]
      cases run : (node.children.mapM (copyDown depth)).run scene with
      | error fault between =>
        rw [run] at below
        exact below
      | ok roots between =>
        rw [run] at below
        obtain ⟨issued, belowAdds⟩ := below
        simp only [run_insertNode]
        exact ⟨_, belowAdds.withNode node.payload⟩
    · simp only [copyDown, EStateM.run_bind, run_node_of_dead live]
      exact ⟨_, _, Scene.Accretes.nil scene⟩

/-- A clone only adds nodes; its answer is their one root. -/
theorem onlyAdds_clone (handle : Handle) (withChildren : Bool) :
    (clone handle withChildren).OnlyAdds fun root => [root] := by
  intro scene
  simp only [clone, EStateM.run_bind, EStateM.run_get]
  exact onlyAdds_copyDown _ handle scene

end Edit

namespace Operation

open Scene

/-! ### What an operation does -/

/-- What an operation can do to a scene. An operation that is refused does nothing. -/
inductive Effect (scene : Scene) : Operation → Scene → Prop where
  | refused (operation : Operation) : Effect scene operation scene
  | create (name : String) (bag : Props) :
    Effect scene (.create name bag) (scene.withNode ⟨.create name bag, []⟩)
  | insert (payload : Payload) : Effect scene (.insert payload) (scene.withNode ⟨payload, []⟩)
  | update {handle : Handle} {payload : Payload} {children : List Handle}
    (found : scene.nodes.get? handle = some ⟨payload, children⟩) (bag : Props) :
    Effect scene (.update handle bag) (scene.setNode handle ⟨payload.update bag, children⟩)
  | clone {handle : Handle} {withChildren : Bool} {after : Scene} {roots issued : List Handle}
    (accretes : scene.Accretes after roots issued) :
    Effect scene (.clone handle withChildren) after
  | append {site : Site} {child : Handle} {list : List Handle} (live : scene.contains child)
    (found : scene.list? site = some list) :
    Effect scene (.append site child) (scene.setList site (list ++ [child]))
  | insertBefore {site : Site} {child : Handle} {list : List Handle}
    (live : scene.contains child) (found : scene.list? site = some list) (before : Handle) :
    Effect scene (.insertBefore site child before)
      (scene.setList site (placeBefore child before list))
  | remove {site : Site} {list : List Handle} (found : scene.list? site = some list)
    (child : Handle) : Effect scene (.remove site child) (scene.setList site (list.erase child))
  | clear : Effect scene .clear { scene with top := [] }
  | prune : Effect scene .prune scene.pruned

/-- An edit of a list gives the list that is due, or is refused. -/
theorem after_relist (scene : Scene) (site : Site) (change : List Handle → List Handle) :
    (Edit.relist site change).after scene = scene ∨
      ∃ list, scene.list? site = some list ∧
        (Edit.relist site change).after scene = scene.setList site (change list) := by
  rcases scene.list?_cases site with ⟨list, found⟩ | ⟨parent, rfl, dead⟩
  · exact Or.inr ⟨list, found, Edit.after_of_ok (Edit.run_relist found change)⟩
  · exact Or.inl (Edit.after_of_error (Edit.run_relist_of_dead dead change))

/-- An edit that brings a child into a list is refused unless the child is live. -/
theorem after_ensureLive_relist (scene : Scene) (site : Site) (child : Handle)
    (change : List Handle → List Handle) :
    (Edit.ensureLive child >>= fun _ => Edit.relist site change).after scene = scene ∨
      ∃ list, scene.contains child ∧ scene.list? site = some list ∧
        (Edit.ensureLive child >>= fun _ => Edit.relist site change).after scene =
          scene.setList site (change list) := by
  by_cases live : scene.contains child
  · rw [Edit.after_ensureLive_relist_of_live live]
    rcases after_relist scene site change with refused | ⟨list, found, done⟩
    · exact Or.inl refused
    · exact Or.inr ⟨list, live, found, done⟩
  · exact Or.inl (Edit.after_of_error (Edit.run_ensureLive_relist_of_dead live change))

/-- An operation does what it can do, and nothing else. -/
theorem effect_after (scene : Scene) (operation : Operation) :
    operation.Effect scene (operation.after scene) := by
  cases operation with
  | create name bag =>
    rw [after, Edit.after_of_ok (Edit.run_create scene name bag)]
    exact Effect.create name bag
  | insert payload =>
    rw [after, Edit.after_of_ok (Edit.run_insert scene payload)]
    exact Effect.insert payload
  | createText content =>
    rw [after, Edit.after_of_error (Edit.run_createText scene content)]
    exact Effect.refused _
  | update handle bag =>
    rw [after]
    by_cases live : scene.contains handle
    · obtain ⟨⟨payload, children⟩, found⟩ := Arena.contains_iff.mp live
      rw [Edit.after_of_ok (Edit.run_update found bag)]
      exact Effect.update found bag
    · rw [Edit.after_of_error (Edit.run_update_of_dead live bag)]
      exact Effect.refused _
  | clone handle withChildren =>
    obtain ⟨roots, issued, accretes⟩ := (Edit.onlyAdds_clone handle withChildren).after scene
    exact Effect.clone accretes
  | append site child =>
    rw [after, Edit.append_eq]
    rcases after_ensureLive_relist scene site child (· ++ [child]) with
      refused | ⟨list, live, found, done⟩
    · rw [refused]
      exact Effect.refused _
    · rw [done]
      exact Effect.append live found
  | insertBefore site child before =>
    rw [after, Edit.insertBefore_eq]
    rcases after_ensureLive_relist scene site child (placeBefore child before) with
      refused | ⟨list, live, found, done⟩
    · rw [refused]
      exact Effect.refused _
    · rw [done]
      exact Effect.insertBefore live found before
  | remove site child =>
    rw [after, Edit.remove_eq]
    rcases after_relist scene site (·.erase child) with refused | ⟨list, found, done⟩
    · rw [refused]
      exact Effect.refused _
    · rw [done]
      exact Effect.remove found child
  | clear =>
    rw [after, Edit.after_of_ok (Edit.run_clear scene)]
    exact Effect.clear
  | prune =>
    rw [after, Edit.after_of_ok (Edit.run_prune scene)]
    exact Effect.prune

end Operation

end SolidScene
