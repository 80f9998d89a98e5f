/-
This file says without a bound on the depth what the solid of a node is: a handle
unfolds to a payload over the solids of its children, in order. A handle unfolds to
at most one solid, and it unfolds to one exactly if nothing that it reaches is
dangling or below itself. The bounded unfolding that the text and the report are
read off cuts nothing off, since no path without a cycle has more nodes than the
scene.

Unfolding is a relation between a handle and a solid, so that to unfold says at once
that everything below is live and that there is no cycle. Almost all proofs about
scenes that mention a text go through it: two scenes that agree below a handle have
the same solid there, and with it the same text at every indent and the same entry
in a report. The inductions are over lists of handles side by side with their
solids, one step taking in the children of the first node and the handles after it.
-/
import Mathlib.Data.List.Forall2
import SolidScene.Proofs.Scene.Descent
import SolidScene.Scene.Report

namespace SolidScene

/-! ### Lists side by side -/

/-- A member of the left list has a partner in the right list. -/
theorem exists_mem_of_forall₂ {α β : Type} {relation : α → β → Prop} {left : List α}
    {right : List β} (pairs : List.Forall₂ relation left right) {first : α}
    (member : first ∈ left) : ∃ second ∈ right, relation first second := by
  induction pairs with
  | nil => exact absurd member List.not_mem_nil
  | cons pair _ inductionHypothesis =>
    rcases List.mem_cons.mp member with rfl | later
    · exact ⟨_, List.mem_cons_self, pair⟩
    · obtain ⟨second, secondMember, related⟩ := inductionHypothesis later
      exact ⟨second, List.mem_cons_of_mem _ secondMember, related⟩

/-- Where every member of a list has a partner, there is a list of partners. -/
theorem exists_forall₂ {α β : Type} {relation : α → β → Prop} {left : List α}
    (partner : ∀ first ∈ left, ∃ second, relation first second) :
    ∃ right, List.Forall₂ relation left right := by
  induction left with
  | nil => exact ⟨[], List.Forall₂.nil⟩
  | cons first rest inductionHypothesis =>
    obtain ⟨second, related⟩ := partner first List.mem_cons_self
    obtain ⟨others, pairs⟩ :=
      inductionHypothesis fun later member => partner later (List.mem_cons_of_mem _ member)
    exact ⟨second :: others, List.Forall₂.cons related pairs⟩

namespace Solid

/-! ### Lists of solids -/

/-- A fact of all lists of solids, from the children of the first solid and the solids after
it. -/
@[elab_as_elim]
theorem list_induction {motive : List Solid → Prop} (nil : motive [])
    (cons : ∀ payload children rest, motive children → motive rest →
      motive (.node payload children :: rest)) : ∀ solids, motive solids
  | [] => nil
  | .node payload children :: rest =>
    cons payload children rest (list_induction nil cons children) (list_induction nil cons rest)
termination_by solids => sizeOf solids
decreasing_by all_goals simp only [List.cons.sizeOf_spec, Solid.node.sizeOf_spec]; omega

mutual

/-- The number of payloads in a solid. -/
def count : Solid → Nat
  | .node _ children => 1 + countAll children

/-- The number of payloads in solids. -/
def countAll : List Solid → Nat
  | [] => 0
  | solid :: rest => solid.count + countAll rest

end

mutual

/-- The number of payloads on the longest path down a solid. -/
def height : Solid → Nat
  | .node _ children => 1 + heightAll children

/-- The number of payloads on the longest path down one of the solids. -/
def heightAll : List Solid → Nat
  | [] => 0
  | solid :: rest => max solid.height (heightAll rest)

end

theorem countAll_append (front rest : List Solid) :
    countAll (front ++ rest) = countAll front + countAll rest := by
  induction front with
  | nil => simp [countAll]
  | cons solid front inductionHypothesis =>
    simp only [List.cons_append, countAll, inductionHypothesis, Nat.add_assoc]

theorem eq_nil_of_heightAll {solids : List Solid} (flat : heightAll solids = 0) :
    solids = [] := by
  cases solids with
  | nil => rfl
  | cons solid rest =>
    cases solid
    simp only [heightAll, height] at flat
    omega

theorem height_le_heightAll {solid : Solid} {solids : List Solid} (member : solid ∈ solids) :
    solid.height ≤ heightAll solids := by
  induction solids with
  | nil => exact absurd member List.not_mem_nil
  | cons first rest inductionHypothesis =>
    rw [heightAll]
    rcases List.mem_cons.mp member with rfl | later
    · exact Nat.le_max_left _ _
    · exact Nat.le_trans (inductionHypothesis later) (Nat.le_max_right _ _)

end Solid

namespace Solid

/-- A property holds of every payload in a solid. -/
inductive Holds (property : Payload → Prop) : Solid → Prop where
  | node {payload : Payload} {children : List Solid} (here : property payload)
    (below : ∀ child ∈ children, Holds property child) : Holds property (.node payload children)

/-- A property holds in a solid if it holds of its payload and in its children. -/
theorem holds_node_iff {property : Payload → Prop} {payload : Payload} {children : List Solid} :
    Holds property (.node payload children) ↔
      property payload ∧ ∀ child ∈ children, Holds property child := by
  constructor
  · rintro ⟨here, below⟩
    exact ⟨here, below⟩
  · rintro ⟨here, below⟩
    exact Holds.node here below

end Solid

theorem Entry.ofSolids_eq_map (solids : List Solid) :
    ofSolids solids = solids.map ofSolid := by
  induction solids with
  | nil => rfl
  | cons solid rest inductionHypothesis => rw [ofSolids, inductionHypothesis, List.map_cons]

namespace Scene

/-! ### The solid of a node -/

/-- The solid of a node: its payload over the solids of its children, in order. -/
inductive Unfolds (scene : Scene) : Handle → Solid → Prop where
  | node {handle : Handle} {node : Node} {solids : List Solid}
    (found : scene.nodes.get? handle = some node)
    (below : List.Forall₂ (Unfolds scene) node.children solids) :
    Unfolds scene handle (.node node.payload solids)

/-- To unfold to a solid is to find its payload and to have children that unfold to its children. -/
theorem unfolds_node_iff {scene : Scene} {handle : Handle} {payload : Payload}
    {solids : List Solid} :
    scene.Unfolds handle (.node payload solids) ↔
      ∃ children, scene.nodes.get? handle = some ⟨payload, children⟩ ∧
        List.Forall₂ scene.Unfolds children solids := by
  constructor
  · rintro ⟨found, below⟩
    exact ⟨_, found, below⟩
  · rintro ⟨children, found, below⟩
    exact Unfolds.node found below

theorem Unfolds.live {scene : Scene} {handle : Handle} {solid : Solid}
    (unfolds : scene.Unfolds handle solid) : scene.contains handle := by
  obtain ⟨found, _⟩ := unfolds
  exact Arena.contains_of_get? found

/-- A child unfolds to one of the solids below its parent. -/
theorem Unfolds.of_isChild {scene : Scene} {parent child : Handle} {solid : Solid}
    (unfolds : scene.Unfolds parent solid) (step : scene.IsChild parent child) :
    ∃ lower, scene.Unfolds child lower ∧ lower.height < solid.height := by
  obtain ⟨found, below⟩ := unfolds
  obtain ⟨lower, member, lowerUnfolds⟩ :=
    exists_mem_of_forall₂ below ((isChild_iff found).mp step)
  have low := Solid.height_le_heightAll member
  exact ⟨lower, lowerUnfolds, by rw [Solid.height]; omega⟩

/-- Whatever is below a node has a lower solid. -/
theorem Unfolds.of_isAbove {scene : Scene} {handle other : Handle} {solid : Solid}
    (unfolds : scene.Unfolds handle solid) (path : scene.IsAbove handle other) :
    ∃ lower, scene.Unfolds other lower ∧ lower.height < solid.height := by
  induction path with
  | single step => exact unfolds.of_isChild step
  | tail _ step inductionHypothesis =>
    obtain ⟨middle, middleUnfolds, middleLow⟩ := inductionHypothesis
    obtain ⟨lower, lowerUnfolds, low⟩ := middleUnfolds.of_isChild step
    exact ⟨lower, lowerUnfolds, low.trans middleLow⟩

/-- A fact of all handles side by side with their solids, from the children of the first node
and the handles after it. -/
@[elab_as_elim]
theorem unfolds_induction {scene : Scene}
    {motive : ∀ handles solids, List.Forall₂ scene.Unfolds handles solids → Prop}
    (nil : motive [] [] List.Forall₂.nil)
    (cons : ∀ {handle payload children solids tail rest}
      (found : scene.nodes.get? handle = some ⟨payload, children⟩)
      (below : List.Forall₂ scene.Unfolds children solids)
      (later : List.Forall₂ scene.Unfolds tail rest), motive children solids below →
      motive tail rest later → motive (handle :: tail) (.node payload solids :: rest)
        (List.Forall₂.cons (Unfolds.node found below) later))
    {handles : List Handle} {solids : List Solid}
    (unfolds : List.Forall₂ scene.Unfolds handles solids) : motive handles solids unfolds := by
  induction solids using Solid.list_induction generalizing handles with
  | nil =>
    cases unfolds
    exact nil
  | cons payload children rest childrenHypothesis restHypothesis =>
    cases unfolds with
    | cons first later =>
      obtain ⟨lower, found, below⟩ := unfolds_node_iff.mp first
      exact cons found below later (childrenHypothesis below) (restHypothesis later)

/-- Handles unfold to one list of solids only. -/
theorem eq_of_unfolds {scene : Scene} {handles : List Handle} {solids others : List Solid}
    (unfolds : List.Forall₂ scene.Unfolds handles solids)
    (otherUnfolds : List.Forall₂ scene.Unfolds handles others) : solids = others := by
  induction unfolds using unfolds_induction generalizing others with
  | nil => exact (List.forall₂_nil_left_iff.mp otherUnfolds).symm
  | cons found below later belowHypothesis laterHypothesis =>
    obtain ⟨⟨otherPayload, otherSolids⟩, otherRest, first, otherLater, rfl⟩ :=
      List.forall₂_cons_left_iff.mp otherUnfolds
    obtain ⟨lower, otherFound, otherBelow⟩ := unfolds_node_iff.mp first
    rw [found, Option.some.injEq, Node.mk.injEq] at otherFound
    obtain ⟨rfl, rfl⟩ := otherFound
    rw [belowHypothesis otherBelow, laterHypothesis otherLater]

/-- A handle unfolds to one solid only. -/
theorem Unfolds.eq {scene : Scene} {handle : Handle} {solid other : Solid}
    (unfolds : scene.Unfolds handle solid) (otherUnfolds : scene.Unfolds handle other) :
    solid = other :=
  (List.cons.inj (eq_of_unfolds (List.Forall₂.cons unfolds List.Forall₂.nil)
    (List.Forall₂.cons otherUnfolds List.Forall₂.nil))).1

/-! ### Solids and cycles -/

/-- A node that unfolds is not below itself, since its solid is not lower than itself. -/
theorem Unfolds.not_isAbove {scene : Scene} {handle : Handle} {solid : Solid}
    (unfolds : scene.Unfolds handle solid) : ¬ scene.IsAbove handle handle := by
  intro path
  obtain ⟨lower, lowerUnfolds, low⟩ := unfolds.of_isAbove path
  rw [lowerUnfolds.eq unfolds] at low
  exact Nat.lt_irrefl _ low

theorem Unfolds.isAcyclicFrom {scene : Scene} {handle : Handle} {solid : Solid}
    (unfolds : scene.Unfolds handle solid) : scene.IsAcyclicFrom handle := by
  intro other path
  rcases Relation.reflTransGen_iff_eq_or_transGen.mp path with rfl | path
  · exact unfolds.not_isAbove
  · obtain ⟨lower, lowerUnfolds, _⟩ := unfolds.of_isAbove path
    exact lowerUnfolds.not_isAbove

/-- Without cycles and dangling handles every live node unfolds: less is below its children
than below itself. -/
theorem exists_unfolds {scene : Scene} (closed : scene.IsClosed) {handle : Handle}
    (live : scene.contains handle) (acyclic : scene.IsAcyclicFrom handle) :
    ∃ solid, scene.Unfolds handle solid := by
  induction size : (scene.below handle).card using Nat.strong_induction_on generalizing handle with
  | _ bound inductionHypothesis =>
    subst size
    obtain ⟨node, found⟩ := Arena.contains_iff.mp live
    have partner (child : Handle) (member : child ∈ node.children) :
        ∃ solid, scene.Unfolds child solid := by
      have step : scene.IsChild handle child := (isChild_iff found).mpr member
      have childLive := closed.child_live handle child step
      have childAcyclic := acyclic.of_reaches (Relation.ReflTransGen.single step)
      exact inductionHypothesis _ (card_below_lt_of_isChild
        (childAcyclic child Relation.ReflTransGen.refl) step childLive) childLive childAcyclic rfl
    obtain ⟨solids, below⟩ := exists_forall₂ partner
    exact ⟨_, Unfolds.node found below⟩

/-- The nodes at the top unfold, if nothing dangles and nothing is below itself. -/
theorem exists_unfolds_top {scene : Scene} (closed : scene.IsClosed)
    (acyclic : scene.IsAcyclic) : ∃ solids, List.Forall₂ scene.Unfolds scene.top solids :=
  exists_forall₂ fun root member =>
    exists_unfolds closed (closed.top_live root member) (acyclic root member)

theorem isAcyclic_of_unfolds {scene : Scene} {solids : List Solid}
    (unfolds : List.Forall₂ scene.Unfolds scene.top solids) : scene.IsAcyclic := by
  intro root member
  obtain ⟨solid, _, rootUnfolds⟩ := exists_mem_of_forall₂ unfolds member
  exact rootUnfolds.isAcyclicFrom

/-- A property holds of every payload of the solids exactly if it holds of every node that the
roots reach. -/
theorem holds_iff_of_unfolds {scene : Scene} {property : Payload → Prop} {roots : List Handle}
    {solids : List Solid} (unfolds : List.Forall₂ scene.Unfolds roots solids) :
    (∀ solid ∈ solids, solid.Holds property) ↔
      ∀ root ∈ roots, ∀ handle node, scene.Reaches root handle →
        scene.nodes.get? handle = some node → property node.payload := by
  induction unfolds using unfolds_induction with
  | nil => simp
  | @cons handle payload children solids tail rest found below later belowHypothesis
      laterHypothesis =>
    rw [List.forall_mem_cons, List.forall_mem_cons, Solid.holds_node_iff, belowHypothesis,
      laterHypothesis]
    refine and_congr_left fun _ => ⟨?_, fun each => ⟨each handle _ .refl found, ?_⟩⟩
    · rintro ⟨here, each⟩ other node path foundOther
      rcases Relation.ReflTransGen.cases_head path with rfl | ⟨child, step, rest⟩
      · rw [found, Option.some.injEq] at foundOther
        exact foundOther ▸ here
      · exact each child ((isChild_iff found).mp step) other node rest foundOther
    · exact fun child member other node path =>
        each other node (Relation.ReflTransGen.head ((isChild_iff found).mpr member) path)

/-- A property holds in the solid of a node exactly if it holds of all that the node reaches. -/
theorem Unfolds.holds_iff {scene : Scene} {property : Payload → Prop} {handle : Handle}
    {solid : Solid} (unfolds : scene.Unfolds handle solid) :
    solid.Holds property ↔ ∀ other node, scene.Reaches handle other →
      scene.nodes.get? other = some node → property node.payload := by
  simpa using holds_iff_of_unfolds (List.Forall₂.cons unfolds List.Forall₂.nil)

/-! ### Solids in scenes that agree -/

theorem unfolds_of_agreesBelow {before after : Scene} {handles : List Handle}
    {solids : List Solid} (unfolds : List.Forall₂ before.Unfolds handles solids)
    (agrees : ∀ handle ∈ handles, after.AgreesBelow before handle) :
    List.Forall₂ after.Unfolds handles solids := by
  induction unfolds using unfolds_induction with
  | nil => exact List.Forall₂.nil
  | @cons handle payload children solids tail rest found below later belowHypothesis
      laterHypothesis =>
    have here : after.AgreesBelow before handle := agrees handle List.mem_cons_self
    have kept : after.nodes.get? handle = some ⟨payload, children⟩ := by
      rw [here handle Relation.ReflTransGen.refl, found]
    refine List.Forall₂.cons (Unfolds.node kept (belowHypothesis fun child member => ?_))
      (laterHypothesis fun other member => agrees other (List.mem_cons_of_mem _ member))
    exact here.of_isChild ((isChild_iff found).mpr member)

/-- Where two scenes agree they have the same solids. -/
theorem AgreesBelow.unfolds {before after : Scene} {handle : Handle} {solid : Solid}
    (agrees : after.AgreesBelow before handle) (unfolds : before.Unfolds handle solid) :
    after.Unfolds handle solid := by
  have single := unfolds_of_agreesBelow (List.Forall₂.cons unfolds List.Forall₂.nil)
    fun other member => (List.mem_singleton.mp member).symm ▸ agrees
  exact (List.forall₂_cons.mp single).1

/-! ### The bounded unfolding -/

theorem unfold_of_dead {scene : Scene} {handle : Handle} (dead : ¬ scene.contains handle)
    (depth : Nat) : scene.unfold depth handle = none := by
  cases depth with
  | zero => rfl
  | succ depth => rw [unfold, Arena.get?_eq_none_iff.mpr dead, Option.map_none]

/-- Where two scenes agree they unfold alike down to each depth. -/
theorem AgreesBelow.unfold_eq {before after : Scene} {handle : Handle}
    (agrees : after.AgreesBelow before handle) (depth : Nat) :
    after.unfold depth handle = before.unfold depth handle := by
  induction depth generalizing handle with
  | zero => rfl
  | succ depth inductionHypothesis =>
    rw [unfold, unfold, agrees handle Relation.ReflTransGen.refl]
    cases found : before.nodes.get? handle with
    | none => rfl
    | some node =>
      have children : node.children.filterMap (after.unfold depth) =
          node.children.filterMap (before.unfold depth) :=
        List.filterMap_congr fun child member =>
          inductionHypothesis (agrees.of_isChild ((Scene.isChild_iff found).mpr member))
      rw [Option.map_some, Option.map_some, children]

/-- Without cycles the unfolding does not depend on the depth, as long as that is larger than what
is below the handle. Dangling handles are left out at every depth. -/
theorem unfold_eq_of_card_lt {scene : Scene} {handle : Handle}
    (acyclic : scene.IsAcyclicFrom handle) {first second : Nat}
    (firstEnough : (scene.below handle).card < first)
    (secondEnough : (scene.below handle).card < second) :
    scene.unfold first handle = scene.unfold second handle := by
  induction first generalizing handle second with
  | zero => exact absurd firstEnough (Nat.not_lt_zero _)
  | succ first inductionHypothesis =>
    obtain ⟨second, rfl⟩ : ∃ lower, second = lower + 1 := ⟨second - 1, by omega⟩
    rw [unfold, unfold]
    cases found : scene.nodes.get? handle with
    | none => rfl
    | some node =>
      have children : node.children.filterMap (scene.unfold first) =
          node.children.filterMap (scene.unfold second) := by
        refine List.filterMap_congr fun child member => ?_
        by_cases live : scene.contains child
        · have step : scene.IsChild handle child := (isChild_iff found).mpr member
          have childAcyclic := acyclic.of_reaches (Relation.ReflTransGen.single step)
          have less := card_below_lt_of_isChild (childAcyclic child .refl) step live
          exact inductionHypothesis childAcyclic (by omega) (by omega)
        · rw [unfold_of_dead live, unfold_of_dead live]
      rw [Option.map_some, Option.map_some, children]

/-- The bounded unfolding gives the solids, if the bound is not below their height. -/
theorem filterMap_unfold {scene : Scene} {handles : List Handle} {solids : List Solid}
    (unfolds : List.Forall₂ scene.Unfolds handles solids) {depth : Nat}
    (enough : Solid.heightAll solids ≤ depth) :
    handles.filterMap (scene.unfold depth) = solids := by
  induction unfolds using unfolds_induction generalizing depth with
  | nil => rfl
  | cons found below later belowHypothesis laterHypothesis =>
    simp only [Solid.heightAll, Solid.height] at enough
    obtain ⟨depth, rfl⟩ : ∃ lower, depth = lower + 1 := ⟨depth - 1, by omega⟩
    rw [List.filterMap_cons, unfold, found, Option.map_some,
      belowHypothesis (by omega), laterHypothesis (by omega)]

/-- A solid is not higher than there is below its handle, the handle counted in. -/
theorem heightAll_le {scene : Scene} {handles : List Handle} {solids : List Solid}
    (unfolds : List.Forall₂ scene.Unfolds handles solids) {bound : Nat}
    (less : ∀ handle ∈ handles, (scene.below handle).card < bound) :
    Solid.heightAll solids ≤ bound := by
  induction unfolds using unfolds_induction generalizing bound with
  | nil => exact Nat.zero_le _
  | @cons handle payload children solids tail rest found below later belowHypothesis
      laterHypothesis =>
    have here := less handle List.mem_cons_self
    have lower : Solid.heightAll solids ≤ (scene.below handle).card := by
      refine belowHypothesis fun child member => ?_
      obtain ⟨solid, _, childUnfolds⟩ := exists_mem_of_forall₂ below member
      exact card_below_lt_of_isChild childUnfolds.not_isAbove ((isChild_iff found).mpr member)
        childUnfolds.live
    have other := laterHypothesis fun other member => less other (List.mem_cons_of_mem _ member)
    rw [Solid.heightAll, Solid.height]
    omega

/-- No solid of a scene is higher than the scene has nodes. -/
theorem heightAll_le_size {scene : Scene} {handles : List Handle} {solids : List Solid}
    (unfolds : List.Forall₂ scene.Unfolds handles solids) :
    Solid.heightAll solids ≤ scene.size := by
  refine heightAll_le unfolds fun handle member => ?_
  obtain ⟨solid, _, handleUnfolds⟩ := exists_mem_of_forall₂ unfolds member
  exact card_below_lt_size handleUnfolds.not_isAbove handleUnfolds.live

/-- The depth of the scene cuts nothing off the solid of a node. -/
theorem Unfolds.solid?_eq {scene : Scene} {handle : Handle} {solid : Solid}
    (unfolds : scene.Unfolds handle solid) : scene.solid? handle = some solid := by
  have single := List.Forall₂.cons unfolds List.Forall₂.nil
  have listed := filterMap_unfold single (heightAll_le_size single)
  rw [List.filterMap_cons] at listed
  unfold solid?
  cases unfolded : scene.unfold scene.size handle with
  | none => simp [unfolded] at listed
  | some other => simpa [unfolded] using listed

/-- The depth of the scene cuts nothing off the solids at the top. -/
theorem solids_eq_of_unfolds {scene : Scene} {solids : List Solid}
    (unfolds : List.Forall₂ scene.Unfolds scene.top solids) : scene.solids = solids :=
  filterMap_unfold unfolds (heightAll_le_size unfolds)

/-- Without cycles at the top two scenes with the same attached nodes have the same solids, even if
one is larger than the other and is unfolded further down. -/
theorem KeepsAttached.solids_eq {before after : Scene} (keeps : after.KeepsAttached before)
    (closed : before.IsClosed) (acyclic : before.IsAcyclic) : after.solids = before.solids := by
  obtain ⟨solids, unfolds⟩ := exists_unfolds_top closed acyclic
  have left : List.Forall₂ after.Unfolds after.top solids := by
    rw [keeps.top_eq]
    exact unfolds_of_agreesBelow unfolds fun root member => keeps.agreesBelow member
  rw [solids_eq_of_unfolds left, solids_eq_of_unfolds unfolds]

/-! ### What is read off a solid -/

/-- The text of a node is that of its solid. -/
theorem Unfolds.source_eq {scene : Scene} {handle : Handle} {solid : Solid}
    (unfolds : scene.Unfolds handle solid) (indent : String) :
    scene.source indent handle = solid.source indent := by
  rw [source, unfolds.solid?_eq, Option.map_some, Option.getD_some]

theorem map_source_eq_of_unfolds {scene : Scene} {handles : List Handle} {solids : List Solid}
    (unfolds : List.Forall₂ scene.Unfolds handles solids) (indent : String) :
    handles.map (scene.source indent) = solids.map (Solid.source indent) := by
  induction unfolds with
  | nil => rfl
  | cons first _ inductionHypothesis =>
    rw [List.map_cons, List.map_cons, first.source_eq, inductionHypothesis]

/-- The entry of a node in a report; a handle that is not live has none. -/
def entryAt? (scene : Scene) (handle : Handle) : Option Entry :=
  (scene.solid? handle).map Entry.ofSolid

theorem Unfolds.entryAt?_eq {scene : Scene} {handle : Handle} {solid : Solid}
    (unfolds : scene.Unfolds handle solid) :
    scene.entryAt? handle = some (Entry.ofSolid solid) := by
  rw [entryAt?, unfolds.solid?_eq, Option.map_some]

/-- A report is made of the entries of the solids. -/
theorem entries_report_eq_map (scene : Scene) :
    scene.report.entries = scene.solids.map Entry.ofSolid :=
  Entry.ofSolids_eq_map scene.solids

end Scene

end SolidScene
