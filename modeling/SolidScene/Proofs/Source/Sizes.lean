/-
This file relates the sizes in a report to the generated text. The report measures
each node by itself, at no indent, while in the text a node stands at its depth; so
a node that writes its children is longer than they are together, by the lines that
it adds and by the indent in front of their lines.

Without line breaks in expressions the difference can be told exactly: a text that
is moved to the right grows by the indent once for each of its line breaks, so the
size of a block is made of the sizes and the line breaks of the texts inside. In
general there is a bound. Texts at a longer indent are no shorter and not empty
where they were not, form by form, and this passes through lists of children at
every depth. An entry of size zero is that of blank raw source and takes no part in
any sum.
-/
import SolidScene.Proofs.Source.Indentation

namespace SolidScene

namespace Source

/-! ### Sizes of texts -/

/-- The number of line breaks in a text. -/
def lineBreaks (text : String) : Nat := text.toList.count '\n'

theorem utf8Len_flatMap_characterAfterBreak (inserted : String) (characters : List Char) :
    String.utf8Len (characters.flatMap (characterAfterBreak inserted)) =
      String.utf8Len characters + inserted.utf8ByteSize * characters.count '\n' := by
  induction characters with
  | nil => rfl
  | cons character characters inductionHypothesis =>
    have here : String.utf8Len (characterAfterBreak inserted character) =
        character.utf8Size + inserted.utf8ByteSize * if character = '\n' then 1 else 0 := by
      unfold characterAfterBreak
      split_ifs with breaks
      · simp [breaks, String.utf8Len_cons, Nat.add_comm]
      · simp [String.utf8Len_cons]
    rw [List.flatMap_cons, String.utf8Len_append, here, inductionHypothesis, List.count_cons,
      String.utf8Len_cons]
    simp only [beq_iff_eq]
    ring

/-- Every line break takes an indent with it. -/
theorem utf8ByteSize_afterBreaks (inserted text : String) :
    (afterBreaks inserted text).utf8ByteSize =
      text.utf8ByteSize + inserted.utf8ByteSize * lineBreaks text := by
  rw [← String.utf8Len_toList, toList_afterBreaks, utf8Len_flatMap_characterAfterBreak,
    String.utf8Len_toList, lineBreaks]

/-- The bytes of the texts that are not empty, each with as many more. -/
def filledSize (extra : Nat) (texts : List String) : Nat :=
  ((texts.filter (· ≠ "")).map fun text => text.utf8ByteSize + extra).sum

theorem filledSize_cons (extra : Nat) (text : String) (texts : List String) :
    filledSize extra (text :: texts) =
      (if text = "" then 0 else text.utf8ByteSize + extra) + filledSize extra texts := by
  unfold filledSize
  split_ifs with empty
  · simp [empty]
  · simp [empty]

/-- The texts that are empty add nothing. -/
theorem filledSize_eq (extra : Nat) (texts : List String) :
    filledSize extra texts =
      (texts.map String.utf8ByteSize).sum + extra * (texts.filter (· ≠ "")).length := by
  induction texts with
  | nil => rfl
  | cons text texts inductionHypothesis =>
    rw [filledSize_cons, inductionHypothesis, List.map_cons, List.sum_cons]
    split_ifs with empty
    · simp [empty]
    · simp [empty]
      ring

theorem filledSize_afterBreaks (extra : Nat) (inserted : String) (texts : List String) :
    filledSize extra (texts.map (afterBreaks inserted)) =
      ((texts.filter (· ≠ "")).map fun text =>
        text.utf8ByteSize + inserted.utf8ByteSize * lineBreaks text + extra).sum := by
  rw [filledSize, filter_map_afterBreaks, List.map_map]
  simp only [Function.comp_def, utf8ByteSize_afterBreaks]

theorem utf8ByteSize_intercalate (separator first : String) (rest : List String) :
    (separator.intercalate (first :: rest)).utf8ByteSize =
      first.utf8ByteSize +
        (rest.map fun text => text.utf8ByteSize + separator.utf8ByteSize).sum := by
  induction rest generalizing first with
  | nil => simp
  | cons second rest inductionHypothesis =>
    rw [String.intercalate_cons_cons, String.utf8ByteSize_append, String.utf8ByteSize_append,
      inductionHypothesis, List.map_cons, List.sum_cons]
    ring

/-- The whole text is the credit and, behind an empty line each, the texts that are not empty. -/
theorem utf8ByteSize_document (texts : List String) :
    (document texts).utf8ByteSize = credit.utf8ByteSize + filledSize 2 texts :=
  utf8ByteSize_intercalate _ _ _

/-- Each text that is not empty stands behind an indent and in front of a line break, the last
line break apart. -/
theorem utf8ByteSize_inner (indent : String) (texts : List String) :
    (inner indent texts).utf8ByteSize = filledSize (indent.utf8ByteSize + 1) texts - 1 := by
  unfold inner filledSize
  cases texts.filter (· ≠ "") with
  | nil => rfl
  | cons first rest =>
    have single : "\n".utf8ByteSize = 1 := by decide
    have each (text : String) : (indent ++ text).utf8ByteSize + 1 =
        text.utf8ByteSize + (indent.utf8ByteSize + 1) := by
      rw [String.utf8ByteSize_append]
      ring
    have here := each first
    rw [List.map_cons, utf8ByteSize_intercalate, single, List.map_map, List.map_cons,
      List.sum_cons]
    simp only [Function.comp_def, each]
    omega

/-! ### Texts that grow -/

/-- One text is not longer than another one, and it is empty exactly if the other one is. -/
structure IsNoLonger (text other : String) : Prop where
  /-- It has no more bytes. -/
  size_le : text.utf8ByteSize ≤ other.utf8ByteSize
  /-- Neither is left out of a list of texts where the other is not. -/
  empty_iff : text = "" ↔ other = ""

theorem IsNoLonger.refl (text : String) : IsNoLonger text text := ⟨Nat.le_refl _, Iff.rfl⟩

/-- Texts that are no longer have no larger sum, with as many bytes more for each. -/
theorem filledSize_le {extra otherExtra : Nat} {texts others : List String}
    (more : extra ≤ otherExtra) (pairs : List.Forall₂ IsNoLonger texts others) :
    filledSize extra texts ≤ filledSize otherExtra others := by
  induction pairs with
  | nil => exact Nat.le_refl _
  | cons pair _ inductionHypothesis =>
    obtain ⟨size_le, empty_iff⟩ := pair
    rw [filledSize_cons, filledSize_cons]
    simp only [empty_iff]
    split_ifs
    · omega
    · omega

/-- Lines do not get shorter with a longer indent and longer texts. -/
theorem isNoLonger_inner {indent other : String} (wider : indent.utf8ByteSize ≤ other.utf8ByteSize)
    {texts others : List String} (pairs : List.Forall₂ IsNoLonger texts others) :
    IsNoLonger (inner indent texts) (inner other others) := by
  constructor
  · have lines := filledSize_le (Nat.add_le_add_right wider 1) pairs
    rw [utf8ByteSize_inner, utf8ByteSize_inner]
    omega
  · rw [inner_eq_empty_iff, inner_eq_empty_iff]
    induction pairs with
    | nil => simp
    | cons pair _ inductionHypothesis =>
      rw [List.forall_mem_cons, List.forall_mem_cons, pair.empty_iff, inductionHypothesis]

namespace Form

theorem utf8ByteSize_opening_pos {form : Form} (encloses : form.Encloses) (indent : String) :
    0 < (form.opening indent).utf8ByteSize := by
  have brace : 0 < "\x7b".utf8ByteSize := by decide
  cases form with
  | statement call => exact encloses.elim
  | block head =>
    rw [opening, String.utf8ByteSize_append]
    omega
  | verbatim code => exact encloses.elim
  | remark label =>
    rw [opening, String.utf8ByteSize_append]
    omega

variable {indent other : String} (wider : indent.utf8ByteSize ≤ other.utf8ByteSize)

include wider

theorem utf8ByteSize_opening_le (form : Form) :
    (form.opening indent).utf8ByteSize ≤ (form.opening other).utf8ByteSize := by
  cases form with
  | statement call => exact Nat.le_refl _
  | block head => exact Nat.le_refl _
  | verbatim code => exact Nat.le_refl _
  | remark label =>
    simp only [opening, String.utf8ByteSize_append]
    omega

/-- Without lines of children only what is passed through depends on the indent. -/
theorem isNoLonger_text_empty (form : Form) :
    IsNoLonger (form.text indent "") (form.text other "") := by
  cases form with
  | statement call => exact IsNoLonger.refl _
  | block head =>
    rw [text, text, block_empty, block_empty]
    exact IsNoLonger.refl _
  | verbatim code =>
    rw [text, text]
    split_ifs
    · exact IsNoLonger.refl _
    · constructor
      · rw [utf8ByteSize_afterBreaks, utf8ByteSize_afterBreaks]
        exact Nat.add_le_add_left (Nat.mul_le_mul_right _ wider) _
      · rw [afterBreaks_eq_empty_iff, afterBreaks_eq_empty_iff]
  | remark label => exact IsNoLonger.refl _

/-- A text does not get shorter with its indent and with the lines of its children. -/
theorem isNoLonger_text (form : Form) {inside otherInside : String}
    (lines : IsNoLonger inside otherInside) :
    IsNoLonger (form.text indent inside) (form.text other otherInside) := by
  by_cases encloses : form.Encloses
  · by_cases filled : inside = ""
    · rw [filled, lines.empty_iff.mp filled]
      exact isNoLonger_text_empty wider form
    · have otherFilled := mt lines.empty_iff.mpr filled
      rw [text_of_ne_empty encloses filled, text_of_ne_empty encloses otherFilled]
      constructor
      · have opens := utf8ByteSize_opening_le wider form
        have inside := lines.size_le
        simp only [String.utf8ByteSize_append]
        omega
      · simp
  · rw [text_of_not_encloses encloses, text_of_not_encloses encloses other]
    exact isNoLonger_text_empty wider form

end Form

end Source

open Source

namespace Solid

/-- No solid has a shorter text at a longer indent, and none loses its text. -/
theorem isNoLonger_sources (solids : List Solid) {indent other : String}
    (wider : indent.utf8ByteSize ≤ other.utf8ByteSize) :
    List.Forall₂ IsNoLonger (solids.map (source indent)) (solids.map (source other)) := by
  induction solids using list_induction generalizing indent other with
  | nil => exact List.Forall₂.nil
  | cons payload children rest childrenHypothesis restHypothesis =>
    have step : (indent ++ indentStep).utf8ByteSize ≤ (other ++ indentStep).utf8ByteSize := by
      rw [String.utf8ByteSize_append, String.utf8ByteSize_append]
      omega
    rw [List.map_cons, List.map_cons, source_node, source_node]
    exact .cons (Form.isNoLonger_text wider _ (isNoLonger_inner step (childrenHypothesis step)))
      (restHypothesis wider)

/-- The size of a solid that writes its children, if one of them has a text: what it opens with,
its last line, and for each child with a text its lines at the next indent. -/
theorem utf8ByteSize_source_of_filled {payload : Payload} {children : List Solid}
    (enclosing : payload.kind ∈ Kind.enclosing)
    (filled : ∃ child ∈ children, child.source "" ≠ "") :
    ((node payload children).source "").utf8ByteSize =
      ((form payload).opening "").utf8ByteSize + 2 +
        filledSize 3 (children.map (source indentStep)) := by
  have size_brace : "\x7d".utf8ByteSize = 1 := by decide
  have size_break : "\n".utf8ByteSize = 1 := by decide
  have size_step : indentStep.utf8ByteSize + 1 = 3 := by decide
  have wider : "".utf8ByteSize ≤ indentStep.utf8ByteSize := by decide
  have some : Source.inner indentStep (children.map (source indentStep)) ≠ "" := by
    have lines := isNoLonger_inner (Nat.le_refl indentStep.utf8ByteSize)
      (isNoLonger_sources children wider)
    rw [Ne, ← lines.empty_iff, inner_eq_empty_iff]
    simpa using filled
  have size := utf8ByteSize_inner indentStep (children.map (source indentStep))
  have positive := mt String.utf8ByteSize_eq_zero_iff.mp some
  rw [size_step] at size
  rw [source_node, String.empty_append,
    Form.text_of_ne_empty (Form.encloses_iff.mpr enclosing) some]
  simp only [String.append_empty, String.utf8ByteSize_append, size_brace, size_break]
  omega

end Solid

/-! ### Entries -/

namespace Entry

/-- The kind of the node that an entry is about. -/
def kind : Entry → Kind
  | node kind _ _ => kind

/-- The entries directly below an entry. -/
def children : Entry → List Entry
  | node _ _ children => children

/-- The size of an entry is that of the text at no indent. -/
theorem size_ofSolid (solid : Solid) : (ofSolid solid).size = (solid.source "").utf8ByteSize := by
  cases solid
  rfl

/-- Only raw source can be without a text. -/
theorem size_ne_zero {payload : Payload} (processed : payload.kind ≠ .raw)
    (children : List Solid) : (ofSolid (.node payload children)).size ≠ 0 := by
  rw [size_ofSolid, Ne, String.utf8ByteSize_eq_zero_iff, Solid.source_node]
  exact text_form_ne_empty processed _ _

theorem children_ofSolid (payload : Payload) (solids : List Solid) :
    (ofSolid (.node payload solids)).children = solids.map ofSolid :=
  ofSolids_eq_map solids

/-- The texts of solids that are not empty, read off their entries. -/
theorem filledSize_sources (extra : Nat) (solids : List Solid) :
    filledSize extra (solids.map (Solid.source "")) =
      ((solids.map ofSolid).map size).sum +
        extra * ((solids.map ofSolid).filter (·.size ≠ 0)).length := by
  have sizes : (solids.map (Solid.source "")).map String.utf8ByteSize =
      (solids.map ofSolid).map size := by
    simp [Function.comp_def, size_ofSolid]
  have counts : ((solids.map (Solid.source "")).filter (· ≠ "")).length =
      ((solids.map ofSolid).filter (·.size ≠ 0)).length := by
    simp [List.filter_map, Function.comp_def, size_ofSolid, String.utf8ByteSize_eq_zero_iff]
  rw [filledSize_eq, sizes, counts]

section

variable {payload : Payload} {children : List Solid} (enclosing : payload.kind ∈ Kind.enclosing)
  (filled : ∃ lower ∈ children.map ofSolid, lower.size ≠ 0)

include enclosing filled

/-- The size of a node that writes its children, by their texts inside the block. -/
theorem size_eq_of_filled :
    (ofSolid (.node payload children)).size = ((form payload).opening "").utf8ByteSize + 2 +
      filledSize 3 (children.map (Solid.source indentStep)) := by
  rw [size_ofSolid]
  refine Solid.utf8ByteSize_source_of_filled enclosing ?_
  simpa [size_ofSolid, String.utf8ByteSize_eq_zero_iff] using filled

/-- The texts of the children do not get shorter inside the block. -/
theorem sum_le_size_of_filled :
    ((children.map ofSolid).map size).sum +
        3 * ((children.map ofSolid).filter (·.size ≠ 0)).length + 3 ≤
      (ofSolid (.node payload children)).size := by
  have wider : "".utf8ByteSize ≤ indentStep.utf8ByteSize := by decide
  have lines := filledSize_le (Nat.le_refl 3) (Solid.isNoLonger_sources children wider)
  have opens := Form.utf8ByteSize_opening_pos (Form.encloses_iff.mpr enclosing) ""
  rw [filledSize_sources] at lines
  rw [size_eq_of_filled enclosing filled]
  omega

theorem size_eq_of_moves (moves : ∀ child ∈ children, child.Moves) :
    (ofSolid (.node payload children)).size = ((form payload).opening "").utf8ByteSize + 2 +
      (((children.map (Solid.source "")).filter (· ≠ "")).map fun text =>
        text.utf8ByteSize + 2 * lineBreaks text + 3).sum := by
  have step : indentStep.utf8ByteSize = 2 := by decide
  rw [size_eq_of_filled enclosing filled, Solid.map_source_eq moves, filledSize_afterBreaks, step]

end

end Entry

/-- An entry stands in a report, at any depth. -/
inductive Report.Contains (report : Report) : Entry → Prop where
  /-- It is at the top. -/
  | top {entry : Entry} (member : entry ∈ report.entries) : Contains report entry
  /-- It is directly below an entry that stands there. -/
  | under {upper entry : Entry} (contained : Contains report upper)
    (member : entry ∈ upper.children) : Contains report entry

namespace Scene

/-- Every entry of a report is that of a node that can be reached. -/
theorem exists_unfolds_of_contains {scene : Scene} (built : scene.IsBuilt)
    (acyclic : scene.IsAcyclic) {entry : Entry} (contained : scene.report.Contains entry) :
    ∃ handle solid, scene.IsAttached handle ∧ scene.Unfolds handle solid ∧
      entry = Entry.ofSolid solid := by
  obtain ⟨solids, unfolds⟩ := exists_unfolds_top built.isClosed acyclic
  induction contained with
  | top member =>
    rw [entries_report_eq_map, solids_eq_of_unfolds unfolds] at member
    obtain ⟨solid, solidMember, rfl⟩ := List.mem_map.mp member
    obtain ⟨handle, handleMember, handleUnfolds⟩ :=
      exists_mem_of_forall₂ unfolds.flip solidMember
    exact ⟨handle, solid, isAttached_of_mem_top handleMember, handleUnfolds, rfl⟩
  | under _ member inductionHypothesis =>
    obtain ⟨handle, ⟨payload, lower⟩, attached, handleUnfolds, rfl⟩ := inductionHypothesis
    rw [Entry.children_ofSolid] at member
    obtain ⟨solid, solidMember, rfl⟩ := List.mem_map.mp member
    obtain ⟨children, found, below⟩ := unfolds_node_iff.mp handleUnfolds
    obtain ⟨child, childMember, childUnfolds⟩ := exists_mem_of_forall₂ below.flip solidMember
    exact ⟨child, solid, attached.of_isChild ((isChild_iff found).mpr childMember), childUnfolds,
      rfl⟩

/-- The text is as long as the credit, the total of the report and an empty line for each node at
the top that has a text. An entry at any depth of the report is that of a node that can be
reached; its size is that of the text of the node by itself, and the entries below it are those
of the children. If the node writes its children and one of them has a text, it is longer than
these together by three bytes at least, and by three more for each child with a text. Without
line breaks in expressions its size is that of its opening and two more, and for each child with
a text that of the text, two for each of its line breaks and three more. -/
theorem sizes_account_for_text {scene : Scene} (built : scene.IsBuilt)
    (acyclic : scene.IsAcyclic) :
    scene.text.utf8ByteSize = credit.utf8ByteSize + scene.report.total +
        2 * (scene.report.entries.filter (·.size ≠ 0)).length ∧
      ∀ entry, scene.report.Contains entry → ∃ handle node, scene.IsAttached handle ∧
        scene.nodes.get? handle = some node ∧ entry.kind = node.payload.kind ∧
        entry.size = (scene.source "" handle).utf8ByteSize ∧
        List.Forall₂ (fun child lower => scene.entryAt? child = some lower) node.children
          entry.children ∧
        (entry.kind ∈ Kind.enclosing → (∃ lower ∈ entry.children, lower.size ≠ 0) →
          (entry.children.map Entry.size).sum +
              3 * (entry.children.filter (·.size ≠ 0)).length + 3 ≤ entry.size ∧
            ((∀ other lower, scene.Reaches handle other → scene.nodes.get? other = some lower →
                lower.payload.IsUnbroken) →
              entry.size = ((form node.payload).opening "").utf8ByteSize + 2 +
                (((node.children.map (scene.source "")).filter (· ≠ "")).map fun text =>
                  text.utf8ByteSize + 2 * lineBreaks text + 3).sum)) := by
  refine ⟨?_, fun entry contained => ?_⟩
  · rw [text, utf8ByteSize_document, Entry.filledSize_sources, ← entries_report_eq_map,
      ← Nat.add_assoc]
    rfl
  · obtain ⟨handle, ⟨payload, solids⟩, attached, unfolds, rfl⟩ :=
      exists_unfolds_of_contains built acyclic contained
    obtain ⟨children, found, below⟩ := unfolds_node_iff.mp unfolds
    have entries : List.Forall₂ (fun child lower => scene.entryAt? child = some lower) children
        (solids.map Entry.ofSolid) :=
      List.forall₂_map_right_iff.mpr (below.imp fun _ _ childUnfolds => childUnfolds.entryAt?_eq)
    rw [Entry.children_ofSolid]
    refine ⟨handle, ⟨payload, children⟩, attached, found, rfl, ?_, entries,
      fun enclosing filled => ⟨Entry.sum_le_size_of_filled enclosing filled, fun unbroken => ?_⟩⟩
    · rw [Entry.size_ofSolid, unfolds.source_eq]
    · have moves := Solid.moves_of_isUnbroken
        (Solid.holds_node_iff.mp (unfolds.holds_iff.mpr unbroken)).2
      rw [map_source_eq_of_unfolds below]
      exact Entry.size_eq_of_moves enclosing filled moves

/-- The union stands over the node of the unknown name. -/
theorem unfolds_remarked :
    List.Forall₂ remarked.Unfolds remarked.top [.node .union [oddlyNamed]] := by
  have lowerFound : remarked.nodes.get? ⟨2, 1⟩ =
      some ⟨.unknown "odd\nname" [], [⟨3, 1⟩, ⟨4, 1⟩]⟩ := by cbv
  have rootFound : remarked.nodes.get? ⟨1, 1⟩ = some ⟨.union, [⟨2, 1⟩]⟩ := by cbv
  have lower : remarked.Unfolds ⟨2, 1⟩ oddlyNamed :=
    unfolds_node_iff.mpr ⟨_, lowerFound, unfolds_oddlyNamed_children⟩
  have root := unfolds_node_iff.mpr ⟨_, rootFound, .cons lower .nil⟩
  have top : remarked.top = [⟨1, 1⟩] := by cbv
  rw [top]
  exact .cons root .nil

/-- The union and the node of an unknown name in it have a text each. -/
theorem sizes_account_for_text_remarked :
    remarked.text.utf8ByteSize = credit.utf8ByteSize + remarked.report.total + 2 ∧
      (Entry.ofSolid oddlyNamed).size + 6 ≤ (Entry.ofSolid (.node .union [oddlyNamed])).size := by
  obtain ⟨total, each⟩ :=
    sizes_account_for_text isBuilt_remarked (isAcyclic_of_unfolds unfolds_remarked)
  have entries := entries_report_eq_map remarked
  rw [solids_eq_of_unfolds unfolds_remarked, List.map_singleton] at entries
  have contained := Report.Contains.top (entries ▸ List.mem_singleton_self _)
  obtain ⟨_, _, _, _, _, _, _, bounds⟩ := each _ contained
  have rootSize : (Entry.ofSolid (.node .union [oddlyNamed])).size ≠ 0 :=
    Entry.size_ne_zero (by decide) _
  have lowerSize : (Entry.ofSolid oddlyNamed).size ≠ 0 := Entry.size_ne_zero (by decide) _
  rw [Entry.children_ofSolid] at bounds
  obtain ⟨bound, _⟩ := bounds (by decide) ⟨_, List.mem_cons_self, lowerSize⟩
  constructor
  · simpa [entries, rootSize] using total
  · simpa [lowerSize] using bound

end Scene

end SolidScene
