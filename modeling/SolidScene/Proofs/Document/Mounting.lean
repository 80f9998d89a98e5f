/-
This file shows that a scene with a document mounted into it holds the document. A
part is mounted in three steps: its node is created, its children are mounted into
the list of that node, and the node is put into the list of the part. What was there
before is left alone by all three, but for the list that the parts go to. A text
ends the mounting where it stands, so the nodes above it have been created but are
in no list.

What the parts before the first text leave behind is one record of facts: the list
at the site has got the roots of these parts, the roots unfold to the solids that
the parts stand for, as many nodes were added as are in front of the text, and,
where there is no text, every new node has exactly one place. Mounting the children
of a node gives this record for the scene with the new node in it; putting the node
into its list turns it into the record for the list of the part. The document itself
is the case of the list at the top.
-/
import SolidScene.Document.Mount
import SolidScene.Proofs.Document.Order
import SolidScene.Proofs.Scene.History
import SolidScene.Proofs.Scene.Occurrences

namespace SolidScene

namespace Scene

/-! ### Filling a list -/

/-- A scene in which the list at a site got some roots at its end, with new nodes only below
them. All other payloads and lists are as before. -/
structure IsFilled (before after : Scene) (site : Site) (roots : List Handle)
    (solids : List Solid) : Prop where
  /-- The roots and all below them are new and unfold to the solids. -/
  grows : before.Grows after roots solids
  /-- The nodes of before keep their payloads. -/
  payload : ∀ handle payload, before.payload? handle = some payload →
    after.payload? handle = some payload
  /-- Only the list at the site gets something, at its end. -/
  lists : ∀ other list, before.list? other = some list →
    after.list? other = some (if other = site then list ++ roots else list)

theorem IsFilled.nil {scene : Scene} (closed : scene.IsClosed) (site : Site) :
    scene.IsFilled scene site [] [] where
  grows := Grows.nil closed
  payload _ _ held := held
  lists other list found := by simp [found]

/-- The list at the site has the roots at its end. -/
theorem IsFilled.list?_self {before after : Scene} {site : Site} {roots list : List Handle}
    {solids : List Solid} (filled : before.IsFilled after site roots solids)
    (found : before.list? site = some list) : after.list? site = some (list ++ roots) := by
  rw [filled.lists site list found, if_pos rfl]

/-- A node that the list is not of stays as it was. -/
theorem IsFilled.get?_of_ne {before after : Scene} {site : Site} {roots : List Handle}
    {solids : List Solid} (filled : before.IsFilled after site roots solids) {handle : Handle}
    {node : Node} (different : Site.under handle ≠ site)
    (found : before.nodes.get? handle = some node) : after.nodes.get? handle = some node := by
  have payload := filled.payload handle node.payload (by rw [payload?, found, Option.map_some])
  have list := filled.lists (.under handle) node.children (by rw [list?, found, Option.map_some])
  rw [if_neg different] at list
  exact get?_of_payload?_of_list? payload list

/-- Filling the list at the top keeps the nodes. -/
theorem IsFilled.keepsNodesOf {before after : Scene} {roots : List Handle}
    {solids : List Solid} (filled : before.IsFilled after .top roots solids) :
    after.KeepsNodesOf before :=
  fun _ _ found => filled.get?_of_ne (by simp) found

/-- A site with a list is not under a handle that is not live. -/
theorem under_ne_of_list? {scene : Scene} {site : Site} {list : List Handle}
    (found : scene.list? site = some list) {handle : Handle} (dead : ¬ scene.contains handle) :
    Site.under handle ≠ site := by
  rintro rfl
  obtain ⟨payload, held⟩ := exists_node_of_list? found
  exact dead (Arena.contains_of_get? held)

/-- A list is filled further. -/
theorem IsFilled.append {before between after : Scene} {site : Site}
    {roots others list : List Handle} {solids rest : List Solid}
    (found : before.list? site = some list)
    (first : before.IsFilled between site roots solids)
    (second : between.IsFilled after site others rest) :
    before.IsFilled after site (roots ++ others) (solids ++ rest) where
  grows := first.grows.append second.grows fun _ _ dead held =>
    second.get?_of_ne (under_ne_of_list? found dead) held
  payload handle payload held := second.payload handle payload (first.payload handle payload held)
  lists other otherList otherFound := by
    rw [second.lists other _ (first.lists other otherList otherFound)]
    split
    · rw [List.append_assoc]
    · rfl

section

variable {before filled : Scene} {payload : Payload} {roots list : List Handle}
  {solids : List Solid} {site : Site}

/-- The new node has the roots as its children, once its list is filled. -/
theorem IsFilled.get?_freshHandle
    (below : (before.withNode ⟨payload, []⟩).IsFilled filled
      (.under (before.freshHandle ⟨payload, []⟩)) roots solids) :
    filled.nodes.get? (before.freshHandle ⟨payload, []⟩) = some ⟨payload, roots⟩ := by
  have found := get?_withNode_self before ⟨payload, []⟩
  have held : (before.withNode ⟨payload, []⟩).payload? (before.freshHandle ⟨payload, []⟩) =
      some payload := by rw [payload?, found, Option.map_some]
  have empty : (before.withNode ⟨payload, []⟩).list? (.under (before.freshHandle ⟨payload, []⟩)) =
      some [] := by rw [list?, found, Option.map_some]
  exact get?_of_payload?_of_list? (below.payload _ payload held) (below.list?_self empty)

/-- Once the list of a new node is filled, the scene has grown by that node and all below it. -/
theorem IsFilled.grows_freshHandle
    (below : (before.withNode ⟨payload, []⟩).IsFilled filled
      (.under (before.freshHandle ⟨payload, []⟩)) roots solids) :
    before.Grows filled [before.freshHandle ⟨payload, []⟩] [.node payload solids] :=
  below.grows.over (fun _ live => (keepsNodesOf_withNode before _).contains live)
    below.get?_freshHandle (not_contains_freshHandle before _)

/-- While the list of a new node is filled, the lists of before stay. -/
theorem IsFilled.list?_of_before
    (below : (before.withNode ⟨payload, []⟩).IsFilled filled
      (.under (before.freshHandle ⟨payload, []⟩)) roots solids)
    (found : before.list? site = some list) : filled.list? site = some list := by
  have apart := under_ne_of_list? found (not_contains_freshHandle before ⟨payload, []⟩)
  rw [below.lists site list (list?_withNode_of_some found _), if_neg apart.symm]

/-- Before the new node is put into a list, no list of before has got anything. -/
theorem IsFilled.unattached (site : Site)
    (below : (before.withNode ⟨payload, []⟩).IsFilled filled
      (.under (before.freshHandle ⟨payload, []⟩)) roots solids) :
    before.IsFilled filled site [] [] where
  grows :=
    { unfolds := List.Forall₂.nil
      fresh := fun _ member => absurd member List.not_mem_nil
      live := below.grows_freshHandle.live
      closed := below.grows.closed }
  payload handle held heldAt :=
    below.payload handle held (payload?_withNode_of_some heldAt _)
  lists other otherList otherFound := by
    rw [List.append_nil, ite_self, below.list?_of_before otherFound]

/-- A new node whose list was filled fills the list that it is put into. -/
theorem IsFilled.attach (found : before.list? site = some list)
    (below : (before.withNode ⟨payload, []⟩).IsFilled filled
      (.under (before.freshHandle ⟨payload, []⟩)) roots solids) :
    before.IsFilled (filled.setList site (list ++ [before.freshHandle ⟨payload, []⟩])) site
      [before.freshHandle ⟨payload, []⟩] [.node payload solids] := by
  have grows := below.grows_freshHandle
  have live : ∀ handle ∈ list ++ [before.freshHandle ⟨payload, []⟩], filled.contains handle := by
    intro handle member
    rcases List.mem_append.mp member with old | new
    · exact grows.closed.live_of_list? (below.list?_of_before found) old
    · exact grows.live_of_mem new
  refine ⟨grows.later ?_ (fun _ live => contains_setList_iff.mpr live) (grows.closed.setList live),
    ?_, ?_⟩
  · intro handle node dead held
    rw [get?_setList_of_ne (under_ne_of_list? found dead).symm, held]
  · intro handle held heldAt
    rw [payload?_setList]
    exact below.payload handle held (payload?_withNode_of_some heldAt _)
  · intro other otherList otherFound
    by_cases same : other = site
    · subst same
      cases found.symm.trans otherFound
      rw [list?_setList_self (below.list?_of_before found), if_pos rfl]
    · rw [list?_setList_of_ne same, below.list?_of_before otherFound, if_neg same]

end

/-! ### Places of new handles -/

/-- A scene in which every new handle has one place in all lists, while the handles of before
have as many as before. -/
structure IsPlaced (before after : Scene) : Prop where
  kept : ∀ handle, before.contains handle → after.occurrences handle = before.occurrences handle
  placed : ∀ handle, after.contains handle → ¬ before.contains handle →
    after.occurrences handle = 1

/-- Where no handle is new nothing has to have a place. -/
theorem IsPlaced.refl (scene : Scene) : scene.IsPlaced scene :=
  ⟨fun _ _ => rfl, fun _ live dead => absurd live dead⟩

/-- The places of two steps after each other, if the first one keeps what is live. -/
theorem IsPlaced.trans {before between after : Scene}
    (live : ∀ handle, before.contains handle → between.contains handle)
    (first : before.IsPlaced between) (second : between.IsPlaced after) :
    before.IsPlaced after where
  kept handle old := by rw [second.kept handle (live handle old), first.kept handle old]
  placed handle new dead := by
    by_cases early : between.contains handle
    · rw [second.kept handle early, first.placed handle early dead]
    · exact second.placed handle new early

/-- A new node gets its place when it is put into a list. -/
theorem IsPlaced.attach {before filled : Scene} {node : Node} {site : Site}
    {list : List Handle} (closed : before.IsClosed) (leaf : node.children = [])
    (below : (before.withNode node).IsPlaced filled) (found : filled.list? site = some list) :
    before.IsPlaced (filled.setList site (list ++ [before.freshHandle node])) := by
  -- Whatever the list had before, it gets the new node and nothing else.
  have added (handle : Handle) :
      (filled.setList site (list ++ [before.freshHandle node])).occurrences handle =
        filled.occurrences handle + [before.freshHandle node].count handle := by
    have places := occurrences_setList found (list ++ [before.freshHandle node]) handle
    rw [List.count_append] at places
    omega
  have alone (handle : Handle) :
      (before.withNode node).occurrences handle = before.occurrences handle := by
    rw [occurrences_withNode, leaf, List.count_nil, Nat.zero_add]
  constructor
  · intro handle old
    have other : handle ≠ before.freshHandle node := ne_freshHandle old
    have earlier := (keepsNodesOf_withNode before node).contains old
    rw [added, below.kept handle earlier, alone, List.count_eq_zero.mpr (by simpa using other),
      Nat.add_zero]
  · intro handle new dead
    rw [added]
    -- The node itself was in no list when its children were placed.
    by_cases same : handle = before.freshHandle node
    · subst same
      rw [below.kept _ (contains_withNode_iff.mpr (Or.inl rfl)), alone,
        closed.occurrences_of_dead dead, List.count_singleton_self]
    · have late : ¬ (before.withNode node).contains handle := fun early =>
        (contains_withNode_iff.mp early).elim same dead
      rw [below.placed handle (contains_setList_iff.mp new) late,
        List.count_eq_zero.mpr (by simpa using same)]

/-! ### Mounting parts -/

/-- A scene in which parts were mounted at a site, up to the first text in them. -/
structure IsMounted (before after : Scene) (site : Site) (parts : List Part)
    (roots : List Handle) (solids : List Solid) : Prop where
  /-- The solids are those of the parts in front of the first text. -/
  solids_eq : Part.solids? (Part.front parts) = some solids
  filled : before.IsFilled after site roots solids
  /-- Also the nodes above the text have been created. -/
  size_eq : after.size = before.size + Part.leadingNodes parts
  /-- Without a text every new node is in one list. -/
  placed : Part.firstText? parts = none → before.IsPlaced after

theorem IsMounted.nil {scene : Scene} (closed : scene.IsClosed) (site : Site) :
    scene.IsMounted scene site [] [] [] where
  solids_eq := by rw [Part.front_nil, Part.solids?]
  filled := IsFilled.nil closed site
  size_eq := by rw [Part.leadingNodes_nil, Nat.add_zero]
  placed _ := IsPlaced.refl scene

/-- A text is mounted by nothing. -/
theorem IsMounted.text {scene : Scene} (closed : scene.IsClosed) (site : Site)
    (content : String) (rest : List Part) :
    scene.IsMounted scene site (.text content :: rest) [] [] where
  solids_eq := by rw [Part.front_text, Part.solids?]
  filled := IsFilled.nil closed site
  size_eq := by rw [Part.leadingNodes_text, Nat.add_zero]
  placed none := by simp at none

section

variable {before between after : Scene} {site : Site} {name : String} {props : Props}
  {children rest : List Part} {roots others list : List Handle} {solids later : List Solid}

/-- A text below a node ends the mounting before the node is put into its list. -/
theorem IsMounted.stop (site : Site) (rest : List Part)
    (below : (before.withNode ⟨.create name props, []⟩).IsMounted between
      (.under (before.freshHandle ⟨.create name props, []⟩)) children roots solids)
    (some : Part.firstText? children ≠ none) :
    before.IsMounted between site (.node name props children :: rest) [] [] := by
  refine ⟨?_, below.filled.unattached site, ?_, ?_⟩
  · rw [Part.front_node, if_neg some, Part.solids?]
  · rw [below.size_eq, size_withNode, Part.leadingNodes_node, if_neg some]
    omega
  · intro none
    rw [Part.firstText?_node, Option.or_eq_none_iff] at none
    exact absurd none.1 some

/-- A node without a text below it is put into its list, and the parts after it are mounted. -/
theorem IsMounted.node (closed : before.IsClosed) (found : before.list? site = some list)
    (below : (before.withNode ⟨.create name props, []⟩).IsMounted between
      (.under (before.freshHandle ⟨.create name props, []⟩)) children roots solids)
    (none : Part.firstText? children = none)
    (further : (between.setList site
        (list ++ [before.freshHandle ⟨.create name props, []⟩])).IsMounted after site rest others
      later) :
    before.IsMounted after site (.node name props children :: rest)
      (before.freshHandle ⟨.create name props, []⟩ :: others)
      (.node (.create name props) solids :: later) := by
  have attached := IsFilled.attach found below.filled
  have childSolids := below.solids_eq
  rw [Part.front_eq_self none] at childSolids
  refine ⟨?_, IsFilled.append found attached further.filled, ?_, fun noText => ?_⟩
  · rw [Part.front_node, if_pos none]
    exact Part.solids?_node_iff.mpr ⟨solids, later, childSolids, further.solids_eq, rfl⟩
  · rw [further.size_eq, size_setList, below.size_eq, size_withNode, Part.leadingNodes_node,
      if_pos none]
    omega
  · rw [Part.firstText?_node, Option.or_eq_none_iff] at noText
    exact IsPlaced.trans attached.grows.live
      (IsPlaced.attach closed rfl (below.placed none) (below.filled.list?_of_before found))
      (further.placed noText.2)

end

end Scene

namespace Edit

open Scene

/-- How mounting ends: with the first text, if there is one. -/
def mountEnd : Option String → Scene → EStateM.Result Fault Scene Unit
  | none, after => .ok () after
  | some content, after => .error (.bareText content) after

/-- A node is mounted in three steps, and then the parts after it are. -/
theorem mountAll_node (site : Site) (name : String) (props : Props) (children rest : List Part) :
    mountAll site (.node name props children :: rest) = (do
      let handle ← create name props
      mountAll (.under handle) children
      append site handle
      mountAll site rest) := by
  simp only [mountAll, mountPart, bind_assoc]

/-- Parts are mounted up to the first text in them. The induction is on the parts; the children
of the first part are mounted into the scene with its node, and the parts after it into the scene
in which that node is in its list. -/
theorem run_mountAll (parts : List Part) {scene : Scene} (closed : scene.IsClosed) {site : Site}
    {list : List Handle} (found : scene.list? site = some list) :
    ∃ roots solids after,
      (mountAll site parts).run scene = mountEnd (Part.firstText? parts) after ∧
        scene.IsMounted after site parts roots solids := by
  induction parts using Part.list_induction generalizing scene site list with
  | nil => exact ⟨[], [], scene, rfl, IsMounted.nil closed site⟩
  | text content rest _ => exact ⟨[], [], scene, rfl, IsMounted.text closed site content rest⟩
  | node name props children rest childrenHypothesis restHypothesis =>
    have newFound : (scene.withNode ⟨.create name props, []⟩).list?
        (.under (scene.freshHandle ⟨.create name props, []⟩)) = some [] := by
      rw [list?, get?_withNode_self, Option.map_some]
    obtain ⟨roots, solids, between, run, below⟩ :=
      childrenHypothesis (closed.withNode fun _ member => absurd member List.not_mem_nil) newFound
    rw [mountAll_node, EStateM.run_bind, run_create]
    -- A text below the node keeps the node out of its list and the rest out of the scene.
    cases text : Part.firstText? children with
    | some content =>
      refine ⟨[], [], between, ?_, below.stop site rest (by simp [text])⟩
      rw [Part.firstText?_node, text, Option.some_or]
      simp only [EStateM.run_bind, run, text, mountEnd]
    | none =>
      have attached := IsFilled.attach found below.filled
      have live := below.filled.grows_freshHandle.live_of_mem List.mem_cons_self
      obtain ⟨others, later, after, furtherRun, further⟩ :=
        restHypothesis attached.grows.closed (attached.list?_self found)
      refine ⟨_, _, after, ?_, IsMounted.node closed found below text further⟩
      rw [Part.firstText?_node, text, Option.none_or, ← furtherRun]
      simp only [EStateM.run_bind, run, text, mountEnd,
        run_append live (below.filled.list?_of_before found)]

end Edit

namespace Scene

/-- A scene with a document mounted into it arises by operations as well. -/
theorem IsBuilt.mountAll {scene : Scene} (built : scene.IsBuilt) (site : Site)
    (parts : List Part) : ((Edit.mountAll site parts).after scene).IsBuilt := by
  induction parts using Part.list_induction generalizing scene site with
  | nil => exact built
  | text content rest _ => exact built
  | node name props children rest childrenHypothesis restHypothesis =>
    rw [Edit.mountAll_node]
    refine Edit.after_bind (built.step (.create name props) trivial) fun handle created built => ?_
    refine Edit.after_bind (childrenHypothesis built (.under handle)) fun _ filled built => ?_
    refine Edit.after_bind (built.step (.append site handle) trivial) fun _ attached built => ?_
    exact restHypothesis built site

/-- After the list at the top was filled, the roots and what was attached before is attached. -/
theorem IsFilled.isAttached_iff {before after : Scene} (closed : before.IsClosed)
    {roots : List Handle} {solids : List Solid}
    (filled : before.IsFilled after .top roots solids) {handle : Handle} :
    after.IsAttached handle ↔
      before.IsAttached handle ∨ ∃ root ∈ roots, after.Reaches root handle := by
  have top : after.top = before.top ++ roots := Option.some.inj (filled.list?_self rfl)
  have agrees (root : Handle) (member : root ∈ before.top) : after.AgreesBelow before root :=
    filled.keepsNodesOf.agreesBelow closed (closed.top_live root member)
  constructor
  · rintro ⟨root, member, path⟩
    rw [top] at member
    rcases List.mem_append.mp member with old | new
    · exact Or.inl ⟨root, old, (agrees root old).reaches_iff.mp path⟩
    · exact Or.inr ⟨root, new, path⟩
  · rintro (⟨root, old, path⟩ | ⟨root, new, path⟩)
    · refine ⟨root, ?_, (agrees root old).reaches_iff.mpr path⟩
      rw [top]
      exact List.mem_append_left roots old
    · refine ⟨root, ?_, path⟩
      rw [top]
      exact List.mem_append_right before.top new

/-- A document without a text is mounted as a whole. The list at the top gets one root for each
part at its end, in order, and the roots unfold to the solids of the parts. The nodes of before
stay with their payloads and their children, no root reaches one of them, and each new handle has
one place in all lists. In a scene with nothing at the top the text of the scene is then the
source of the document.

A document with a text is mounted up to the first one, and that text is the fault. The list at
the top gets the roots of the parts in front of the one with the text, there is a new node for
each node in front of the text, and nothing else that is new is attached. -/
theorem mount_follows_document {scene : Scene} (built : scene.IsBuilt) (document : Document) :
    (Part.firstText? document.parts = none →
      ∃ roots solids after, (Edit.mount document).run scene = .ok () after ∧
        Part.solids? document.parts = some solids ∧
        List.Forall₂ after.Unfolds roots solids ∧
        after.top = scene.top ++ roots ∧
        (∀ handle node, scene.nodes.get? handle = some node →
          after.nodes.get? handle = some node) ∧
        (∀ root ∈ roots, ∀ handle, after.Reaches root handle → ¬ scene.contains handle) ∧
        (∀ handle, after.contains handle → ¬ scene.contains handle →
          after.occurrences handle = 1) ∧
        after.size = scene.size + Part.leadingNodes document.parts ∧
        (scene.top = [] → after.text = document.source)) ∧
      ∀ content, Part.firstText? document.parts = some content →
        ∃ roots solids after,
          (Edit.mount document).run scene = .error (.bareText content) after ∧
          Part.solids? (Part.front document.parts) = some solids ∧
          List.Forall₂ after.Unfolds roots solids ∧
          after.top = scene.top ++ roots ∧
          (∀ handle node, scene.nodes.get? handle = some node →
            after.nodes.get? handle = some node) ∧
          (∀ root ∈ roots, ∀ handle, after.Reaches root handle → ¬ scene.contains handle) ∧
          after.size = scene.size + Part.leadingNodes document.parts ∧
          ∀ handle, after.IsAttached handle ↔
            scene.IsAttached handle ∨ ∃ root ∈ roots, after.Reaches root handle := by
  have closed := built.isClosed
  obtain ⟨roots, solids, after, run, mounted⟩ :=
    Edit.run_mountAll document.parts closed (rfl : scene.list? .top = some scene.top)
  have top : after.top = scene.top ++ roots := Option.some.inj (mounted.filled.list?_self rfl)
  have grows := mounted.filled.grows
  constructor
  · intro none
    have parts := mounted.solids_eq
    rw [Part.front_eq_self none] at parts
    refine ⟨roots, solids, after, ?_, parts, grows.unfolds, top, mounted.filled.keepsNodesOf,
      grows.fresh, (mounted.placed none).placed, mounted.size_eq, fun empty => ?_⟩
    · rw [Edit.mount, run, none, Edit.mountEnd]
    · have unfolds : List.Forall₂ after.Unfolds after.top solids := by
        rw [top, empty, List.nil_append]
        exact grows.unfolds
      rw [text, solids_eq_of_unfolds unfolds, Document.source, Part.sources_eq parts]
  · intro content first
    refine ⟨roots, solids, after, ?_, mounted.solids_eq, grows.unfolds, top,
      mounted.filled.keepsNodesOf, grows.fresh, mounted.size_eq, fun handle =>
      mounted.filled.isAttached_iff closed⟩
    rw [Edit.mount, run, first, Edit.mountEnd]

/-- A document without a text. -/
def tidy : Document := .one (.node "union" [] [.node "cube" [] [], .node "hull" [] []])

/-- A document with two texts, one of them below a node. -/
def torn : Document :=
  .many [.node "cube" [] [], .node "union" [] [.node "cube" [] [], .text "label",
    .node "cube" [] []], .text "late"]

/-- The one document is mounted into the empty scene as a whole. Of the other one three nodes are
mounted, and the scene with the twins gets one of them at the top. -/
theorem mount_follows_document_tidy_and_torn :
    (∃ after, (Edit.mount tidy).run .empty = .ok () after ∧ after.size = 3 ∧
      after.text = tidy.source) ∧
      ∃ root after, (Edit.mount torn).run twins = .error (.bareText "label") after ∧
        after.size = twins.size + 3 ∧ after.top = twins.top ++ [root] ∧
        after.Unfolds root (.node (.create "cube" []) []) := by
  constructor
  · obtain ⟨_, _, after, run, _, _, _, _, _, _, size, text⟩ :=
      (mount_follows_document IsBuilt.empty tidy).1 rfl
    exact ⟨after, run, size, text rfl⟩
  · obtain ⟨roots, solids, after, run, parts, unfolds, top, _, _, size, _⟩ :=
      (mount_follows_document isBuilt_twins torn).2 "label" rfl
    have front : Part.solids? (Part.front torn.parts) = some [.node (.create "cube" []) []] := rfl
    cases front.symm.trans parts
    obtain ⟨root, rest, first, later, rfl⟩ := List.forall₂_cons_right_iff.mp unfolds
    cases later
    exact ⟨root, after, run, size, top, first⟩

end Scene

end SolidScene
