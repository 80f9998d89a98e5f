/-
This file shows that blank raw source is neutral. It is the only node without a
text, and a child without a text is left out wherever children are written; so a
blank node that is put into a list changes the text of no node. The report gets one
more entry of size zero wherever the list is met on the way down from the top, and
stays the same otherwise.

The scene with the further node is compared with the one before handle by handle,
along the unfolding: a handle unfolds in both to solids with the same text, and the
entries of the one are the entries of the other with blank ones among them. Where
the blank ones stand is a relation between handles and lists of entries, because the
list of the site is met once for each path that leads to it. That a text stays the
same holds although the solids differ, since texts that are empty are dropped from a
list of texts before they are put together.
-/
import SolidScene.Proofs.Scene.Coverage

namespace SolidScene

open Source

/-! ### Lists with one more member -/

section

variable {α β : Type}

theorem insertIdx_length_append (front rest : List α) (extra : α) :
    (front ++ rest).insertIdx front.length extra = front ++ extra :: rest := by
  induction front with
  | nil => rfl
  | cons first front inductionHypothesis =>
    rw [List.cons_append, List.length_cons, List.insertIdx_succ_cons, inductionHypothesis,
      List.cons_append]

/-- A member more in a list stands between a front and a rest. -/
theorem insertIdx_eq_append {list : List α} {gap : Nat} (room : gap ≤ list.length) (extra : α) :
    list.insertIdx gap extra = list.take gap ++ extra :: list.drop gap := by
  have split := insertIdx_length_append (list.take gap) (list.drop gap) extra
  rwa [List.take_append_drop, List.length_take_of_le room] at split

/-- The partners of two lists in a row are two lists in a row. -/
theorem exists_append_of_forall₂ {relation : α → β → Prop} {front rest : List α} {right : List β}
    (pairs : List.Forall₂ relation (front ++ rest) right) :
    ∃ left later, right = left ++ later ∧ List.Forall₂ relation front left ∧
      List.Forall₂ relation rest later := by
  refine ⟨right.take front.length, right.drop front.length,
    (List.take_append_drop _ _).symm, ?_, ?_⟩
  · simpa using List.forall₂_take front.length pairs
  · simpa using List.forall₂_drop front.length pairs

end

/-! ### Nodes without a text -/

namespace Solid

/-- Only blank raw source has no text. -/
theorem source_eq_empty_iff (payload : Payload) (children : List Solid) (indent : String) :
    (node payload children).source indent = "" ↔
      ∃ code, payload = .raw code ∧ Text.allBlank code := by
  rw [source_node]
  by_cases raw : payload.kind = .raw
  · obtain ⟨code, rfl⟩ := exists_code_of_kind_raw raw
    rw [form, Form.text]
    split_ifs with blank
    · exact ⟨fun _ => ⟨code, rfl, blank⟩, fun _ => rfl⟩
    · rw [afterBreaks_eq_empty_iff]
      constructor
      · rintro rfl
        exact absurd rfl blank
      · rintro ⟨_, ⟨⟩, other⟩
        exact absurd other blank
  · refine iff_of_false (text_form_ne_empty raw _ _) ?_
    rintro ⟨code, rfl, -⟩
    exact raw rfl

end Solid

namespace Entry

/-- The entry of a node without a text. -/
def blank : Entry := node .raw 0 []

theorem ofSolid_blank {code : String} (isBlank : Text.allBlank code) :
    ofSolid (.node (.raw code) []) = blank := by
  have empty := (Solid.source_eq_empty_iff (.raw code) [] "").mpr ⟨code, rfl, isBlank⟩
  rw [ofSolid, empty]
  rfl

theorem countAll_append (left right : List Entry) :
    countAll (left ++ right) = countAll left + countAll right := by
  induction left with
  | nil => rw [List.nil_append, countAll, Nat.zero_add]
  | cons entry rest inductionHypothesis =>
    rw [List.cons_append, countAll, countAll, inductionHypothesis, Nat.add_assoc]

theorem countAll_insertIdx_blank {gap : Nat} {entries : List Entry} (room : gap ≤ entries.length) :
    countAll (entries.insertIdx gap blank) = countAll entries + 1 := by
  have whole := congrArg countAll (List.take_append_drop gap entries)
  rw [countAll_append] at whole
  rw [insertIdx_eq_append room, countAll_append, countAll, blank, count, countAll, ← whole]
  omega

end Entry

namespace Scene

variable {scene : Scene}

/-- A live node has a solid of its payload, however deep it is cut. -/
theorem exists_solid? {handle : Handle} {node : Node}
    (found : scene.nodes.get? handle = some node) :
    ∃ children, scene.solid? handle = some (.node node.payload children) := by
  have live := Arena.contains_of_get? found
  have some : 0 < scene.size := List.length_pos_of_mem (Arena.mem_handles_iff.mpr live)
  obtain ⟨depth, size⟩ := Nat.exists_eq_succ_of_ne_zero some.ne'
  rw [solid?, size, unfold, found]
  exact ⟨_, rfl⟩

/-- The node of a handle has no text only if it is blank raw source. -/
theorem source_eq_empty_iff {handle : Handle} {node : Node}
    (found : scene.nodes.get? handle = some node) (indent : String) :
    scene.source indent handle = "" ↔ ∃ code, node.payload = .raw code ∧ Text.allBlank code := by
  obtain ⟨children, solid⟩ := exists_solid? found
  rw [source, solid, Option.map_some, Option.getD_some, Solid.source_eq_empty_iff]

/-! ### A further leaf -/

/-- The scene with a further node without children, put into a list between its front and the
rest. -/
def withLeaf (scene : Scene) (payload : Payload) (site : Site) (front rest : List Handle) : Scene :=
  (scene.withNode ⟨payload, []⟩).setList site
    (front ++ scene.freshHandle ⟨payload, []⟩ :: rest)

section

variable {site : Site} {front rest : List Handle} (payload : Payload)

/-- The list of the site has the further node in it. -/
theorem list?_withLeaf_self (found : scene.list? site = some (front ++ rest)) :
    (scene.withLeaf payload site front rest).list? site =
      some (front ++ scene.freshHandle ⟨payload, []⟩ :: rest) :=
  list?_setList_self (list?_withNode_of_some found _) _

theorem list?_withLeaf_of_ne {other : Site} (different : other ≠ site) {list : List Handle}
    (listed : scene.list? other = some list) :
    (scene.withLeaf payload site front rest).list? other = some list := by
  rw [withLeaf, list?_setList_of_ne different]
  exact list?_withNode_of_some listed _

theorem payload?_withLeaf {handle : Handle} {held : Payload}
    (found : scene.payload? handle = some held) :
    (scene.withLeaf payload site front rest).payload? handle = some held := by
  rw [withLeaf, payload?_setList]
  exact payload?_withNode_of_some found _

theorem get?_withLeaf_fresh (found : scene.list? site = some (front ++ rest)) :
    (scene.withLeaf payload site front rest).nodes.get? (scene.freshHandle ⟨payload, []⟩) =
      some ⟨payload, []⟩ := by
  have different : site ≠ .under (scene.freshHandle ⟨payload, []⟩) := by
    rintro rfl
    obtain ⟨held, heldAt⟩ := exists_node_of_list? found
    exact not_contains_freshHandle scene _ (Arena.contains_of_get? heldAt)
  rw [withLeaf, get?_setList_of_ne different, get?_withNode_self]

/-- A further node that is appended to a list is a further leaf behind the list. -/
theorem run_insert_append {list : List Handle} (found : scene.list? site = some list) :
    (Edit.insert payload >>= fun leaf => Edit.append site leaf).run scene =
      .ok () (scene.withLeaf payload site list []) := by
  have live : (scene.withNode ⟨payload, []⟩).contains (scene.freshHandle ⟨payload, []⟩) :=
    contains_withNode_iff.mpr (.inl rfl)
  rw [EStateM.run_bind, Edit.run_insert]
  exact Edit.run_append live (list?_withNode_of_some found _)

/-- A further node that is put in front of another one of a list is a further leaf there. -/
theorem run_insert_insertBefore {before : Handle} (first : before ∉ front)
    (found : scene.list? site = some (front ++ before :: rest)) :
    (Edit.insert payload >>= fun leaf => Edit.insertBefore site leaf before).run scene =
      .ok () (scene.withLeaf payload site front (before :: rest)) := by
  have live : (scene.withNode ⟨payload, []⟩).contains (scene.freshHandle ⟨payload, []⟩) :=
    contains_withNode_iff.mpr (.inl rfl)
  rw [EStateM.run_bind, Edit.run_insert]
  simp only
  rw [Edit.insertBefore_eq, Edit.run_ensureLive_relist live,
    Edit.run_relist (list?_withNode_of_some found _), placeBefore_append_cons first, withLeaf]

end

/-! ### Entries with blank ones among them -/

/-- The entries of a list, and a blank one behind `gap` of them if it is the list of the site. -/
def padAt (site : Site) (gap : Nat) (other : Site) (entries : List Entry) : List Entry :=
  if other = site then entries.insertIdx gap .blank else entries

/-- The entries of nodes, and the same entries with a blank one wherever the list of the site is
met below the nodes. -/
inductive Pads (scene : Scene) (site : Site) (gap : Nat) :
    List Handle → List Entry → List Entry → Prop where
  | nil : Pads scene site gap [] [] []
  | cons {handle : Handle} {node : Node} {kind : Kind} {size : Nat} {tail : List Handle}
    {children padded rest paddedRest : List Entry}
    (found : scene.nodes.get? handle = some node)
    (below : Pads scene site gap node.children children padded)
    (later : Pads scene site gap tail rest paddedRest) :
    Pads scene site gap (handle :: tail) (.node kind size children :: rest)
      (.node kind size (padAt site gap (.under handle) padded) :: paddedRest)

/-- Blank entries do not count in a sum of sizes. -/
theorem sum_size_padAt (site other : Site) (gap : Nat) (entries : List Entry) :
    ((padAt site gap other entries).map Entry.size).sum = (entries.map Entry.size).sum := by
  unfold padAt
  split_ifs
  · by_cases room : gap ≤ entries.length
    · have whole := congrArg (fun list => (list.map Entry.size).sum)
        (List.take_append_drop gap entries)
      simp only [List.map_append, List.sum_append] at whole
      rw [insertIdx_eq_append room, List.map_append, List.sum_append, List.map_cons, List.sum_cons,
        ← whole]
      simp [Entry.blank, Entry.size]
    · rw [List.insertIdx_of_length_lt (Nat.lt_of_not_le room)]
  · rfl

theorem Pads.map_size_eq {site : Site} {gap : Nat} {handles : List Handle}
    {entries padded : List Entry} (pads : scene.Pads site gap handles entries padded) :
    padded.map Entry.size = entries.map Entry.size := by
  induction pads with
  | nil => rfl
  | cons _ _ _ _ laterHypothesis =>
    rw [List.map_cons, List.map_cons, laterHypothesis, Entry.size, Entry.size]

theorem Pads.length_eq {site : Site} {gap : Nat} {handles : List Handle}
    {entries padded : List Entry} (pads : scene.Pads site gap handles entries padded) :
    padded.length = handles.length := by
  induction pads with
  | nil => rfl
  | cons _ _ _ _ laterHypothesis => rw [List.length_cons, List.length_cons, laterHypothesis]

theorem countAll_padAt {site other : Site} {gap : Nat} {entries : List Entry}
    (room : other = site → gap ≤ entries.length) :
    Entry.countAll (padAt site gap other entries) =
      Entry.countAll entries + if other = site then 1 else 0 := by
  unfold padAt
  split_ifs with same
  · exact Entry.countAll_insertIdx_blank (room same)
  · rfl

/-- There is one more entry for each time that a walk meets the node whose list it is. -/
theorem Pads.countAll_eq {site : Site} {front rest handles order : List Handle}
    {entries padded : List Entry} (listed : scene.list? site = some (front ++ rest))
    (pads : scene.Pads site front.length handles entries padded)
    (walks : scene.Walks handles order) :
    Entry.countAll padded = Entry.countAll entries + (order.map Site.under).count site := by
  induction pads generalizing order with
  | nil =>
    cases walks
    rfl
  | @cons handle node kind size tail children padded others paddedOthers found below _
      belowHypothesis laterHypothesis =>
    cases walks with
    | cons otherFound down on =>
      rw [found, Option.some.injEq] at otherFound
      subst otherFound
      have room : Site.under handle = site → front.length ≤ padded.length := by
        rintro rfl
        rw [list?, found, Option.map_some, Option.some.injEq] at listed
        rw [below.length_eq, listed, List.length_append]
        exact Nat.le_add_right _ _
      rw [Entry.countAll, Entry.countAll, Entry.count, Entry.count, countAll_padAt room,
        belowHypothesis down, laterHypothesis on, List.map_append, List.map_cons,
        List.cons_append, List.count_cons, List.count_append]
      simp only [beq_iff_eq]
      omega

/-! ### Unfolding around a blank leaf -/

section

variable {site : Site} {front rest : List Handle} {code : String}

/-- The solids of a list, of which those of the site now have a blank one among them. The texts
that are not empty stay the same. -/
theorem exists_padded_list (found : scene.list? site = some (front ++ rest))
    (isBlank : Text.allBlank code) {other : Site} {list : List Handle} {solids : List Solid}
    (listed : scene.list? other = some list)
    (unfolds : List.Forall₂ (scene.withLeaf (.raw code) site front rest).Unfolds list solids) :
    ∃ longer padded, (scene.withLeaf (.raw code) site front rest).list? other = some longer ∧
      List.Forall₂ (scene.withLeaf (.raw code) site front rest).Unfolds longer padded ∧
      Entry.ofSolids padded = padAt site front.length other (Entry.ofSolids solids) ∧
      ∀ indent, (padded.map (Solid.source indent)).filter (· ≠ "") =
        (solids.map (Solid.source indent)).filter (· ≠ "") := by
  by_cases same : other = site
  · subst same
    rw [found, Option.some.injEq] at listed
    subst listed
    obtain ⟨left, later, rfl, leftUnfolds, laterUnfolds⟩ := exists_append_of_forall₂ unfolds
    have leaf : (scene.withLeaf (.raw code) other front rest).Unfolds
        (scene.freshHandle ⟨.raw code, []⟩) (.node (.raw code) []) :=
      unfolds_node_iff.mpr ⟨[], get?_withLeaf_fresh _ found, .nil⟩
    refine ⟨_, left ++ .node (.raw code) [] :: later, list?_withLeaf_self _ found,
      List.rel_append leftUnfolds (.cons leaf laterUnfolds), ?_, fun indent => ?_⟩
    · have length : front.length = (left.map Entry.ofSolid).length := by
        rw [List.length_map, leftUnfolds.length_eq]
      rw [padAt, if_pos rfl, Entry.ofSolids_eq_map, Entry.ofSolids_eq_map, List.map_append,
        List.map_append, length, insertIdx_length_append, List.map_cons,
        Entry.ofSolid_blank isBlank]
    · have empty := (Solid.source_eq_empty_iff (.raw code) [] indent).mpr ⟨code, rfl, isBlank⟩
      simp [empty]
  · exact ⟨list, solids, list?_withLeaf_of_ne _ same listed, unfolds, (if_neg same).symm,
      fun _ => rfl⟩

/-- Handles unfold to solids with the same texts, and to entries with blank ones among them. -/
theorem exists_padded (found : scene.list? site = some (front ++ rest))
    (isBlank : Text.allBlank code) {handles : List Handle} {solids : List Solid}
    (unfolds : List.Forall₂ scene.Unfolds handles solids) :
    ∃ padded, List.Forall₂ (scene.withLeaf (.raw code) site front rest).Unfolds handles padded ∧
      (∀ indent, padded.map (Solid.source indent) = solids.map (Solid.source indent)) ∧
      scene.Pads site front.length handles (Entry.ofSolids solids) (Entry.ofSolids padded) := by
  induction unfolds using unfolds_induction with
  | nil => exact ⟨[], .nil, fun _ => rfl, .nil⟩
  | @cons handle payload children solids tail others nodeFound _ _ belowHypothesis
      laterHypothesis =>
    obtain ⟨lower, lowerUnfolds, lowerTexts, lowerPads⟩ := belowHypothesis
    obtain ⟨later, laterUnfolds, laterTexts, laterPads⟩ := laterHypothesis
    have listed : scene.list? (.under handle) = some children := by
      rw [list?, nodeFound, Option.map_some]
    have held : scene.payload? handle = some payload := by
      rw [payload?, nodeFound, Option.map_some]
    obtain ⟨longer, padded, longerAt, paddedUnfolds, entries, texts⟩ :=
      exists_padded_list found isBlank listed lowerUnfolds
    have node := get?_of_payload?_of_list? (payload?_withLeaf (.raw code) held) longerAt
    have source (indent : String) : (Solid.node payload padded).source indent =
        (Solid.node payload solids).source indent := by
      rw [Solid.source_node, Solid.source_node, Source.inner, Source.inner, texts, lowerTexts]
    refine ⟨.node payload padded :: later, .cons (Unfolds.node node paddedUnfolds) laterUnfolds,
      fun indent => ?_, ?_⟩
    · rw [List.map_cons, List.map_cons, source, laterTexts]
    · rw [Entry.ofSolids, Entry.ofSolids, Entry.ofSolid, Entry.ofSolid, source, entries]
      exact .cons nodeFound lowerPads laterPads

end

/-- A childless node of blank raw source may be put into any list of a scene without cycles: the
text and the total of the report stay the same. The report has a blank entry more wherever the
list is met, where the node stands in it, and no other entry changes. The lists that are met are
the one at the top, and that of a node as often as a walk from the top meets the node. Blank raw
source is all that has no text, whatever its children are. -/
theorem blanks_are_neutral (scene : Scene) :
    (scene.IsBuilt → scene.IsAcyclic → ∀ site front rest code,
      scene.list? site = some (front ++ rest) → Text.allBlank code →
      (scene.withLeaf (.raw code) site front rest).text = scene.text ∧
      (scene.withLeaf (.raw code) site front rest).report.total = scene.report.total ∧
      (∃ padded, scene.Pads site front.length scene.top scene.report.entries padded ∧
        (scene.withLeaf (.raw code) site front rest).report.entries =
          padAt site front.length .top padded) ∧
      ∃ order, scene.Walks scene.top order ∧
        (scene.withLeaf (.raw code) site front rest).report.count =
          scene.report.count + (.top :: order.map Site.under).count site) ∧
    ∀ handle node, scene.nodes.get? handle = some node → ∀ indent,
      (scene.source indent handle = "" ↔
        ∃ code, node.payload = .raw code ∧ Text.allBlank code) := by
  refine ⟨fun built acyclic site front rest code found isBlank => ?_,
    fun handle node nodeFound indent => source_eq_empty_iff nodeFound indent⟩
  obtain ⟨solids, unfolds⟩ := exists_unfolds_top built.isClosed acyclic
  obtain ⟨lower, lowerUnfolds, lowerTexts, pads⟩ := exists_padded found isBlank unfolds
  have listed : scene.list? .top = some scene.top := rfl
  obtain ⟨longer, padded, longerAt, paddedUnfolds, entries, texts⟩ :=
    exists_padded_list found isBlank listed lowerUnfolds
  cases longerAt
  obtain ⟨order, walks, -⟩ := exists_walks unfolds
  have before : scene.report.entries = Entry.ofSolids solids :=
    congrArg Entry.ofSolids (solids_eq_of_unfolds unfolds)
  have after : (scene.withLeaf (.raw code) site front rest).report.entries =
      padAt site front.length .top (Entry.ofSolids lower) :=
    (congrArg Entry.ofSolids (solids_eq_of_unfolds paddedUnfolds)).trans entries
  have total (other : Scene) :
      other.report.total = (other.report.entries.map Entry.size).sum := rfl
  rw [← before] at pads
  refine ⟨?_, ?_, ⟨_, pads, after⟩, order, walks, ?_⟩
  · rw [text, text, solids_eq_of_unfolds unfolds, solids_eq_of_unfolds paddedUnfolds, document,
      document, texts, lowerTexts]
  · rw [total, total, after, sum_size_padAt, pads.map_size_eq]
  · have room : Site.top = site → front.length ≤ (Entry.ofSolids lower).length := by
      rintro rfl
      have top : scene.top = front ++ rest := Option.some.inj found
      rw [pads.length_eq, top, List.length_append]
      exact Nat.le_add_right _ _
    rw [Report.count, Report.count, after, countAll_padAt room, pads.countAll_eq found walks,
      List.count_cons, Nat.add_assoc]
    simp only [beq_iff_eq]

/-- A blank node below the node of an unknown name, in front of a blank one. -/
theorem blanks_are_neutral_remarked :
    (remarked.withLeaf (.raw "\t\n") (.under ⟨2, 1⟩) [⟨3, 1⟩] [⟨4, 1⟩]).text = remarked.text ∧
      remarked.source "\t" ⟨4, 1⟩ = "" := by
  have found : remarked.list? (.under ⟨2, 1⟩) = some ([⟨3, 1⟩] ++ [⟨4, 1⟩]) := by cbv
  have blankNode : remarked.nodes.get? ⟨4, 1⟩ = some ⟨.raw " \n", []⟩ := by cbv
  obtain ⟨neutral, empty⟩ := blanks_are_neutral remarked
  exact ⟨(neutral isBuilt_remarked (isAcyclic_of_unfolds unfolds_remarked) _ _ _ _ found
    (by decide)).1, (empty _ _ blankNode "\t").mpr ⟨_, rfl, by decide⟩⟩

end Scene

end SolidScene
