/-
This file says how a text depends on the indent that it stands behind. The indent is
put behind each line break and nowhere else, so the text of a node at an indent is
its text at no indent, moved to the right below its first line. The lines inside a
block are those of the children, each as it stands alone, moved to the right by two
more spaces than the block.

Line breaks in expressions are the exception: expressions are passed through, so
their later lines are not moved. The condition on a node is therefore that none of
the expressions below it has one; literals and remarks have none by the way in which
they are written, and raw source is moved with its lines. That a text moves with its
indent is proved form by form from the same fact about the children, with the two
moves of a child, into the block and with the block, being one move by both indents.
-/
import SolidScene.Proofs.Scene.History
import SolidScene.Proofs.Source.Blocks
import SolidScene.Proofs.Source.Literal
import SolidScene.Proofs.Source.Wording

namespace SolidScene

namespace Source

/-! ### Texts without line breaks -/

/-- A text without a line break that ends a line of the source. -/
def IsUnbroken (text : String) : Prop := '\n' ∉ text.toList

instance (text : String) : Decidable (IsUnbroken text) :=
  inferInstanceAs (Decidable ('\n' ∉ text.toList))

theorem IsUnbroken.append {first rest : String} (left : IsUnbroken first)
    (right : IsUnbroken rest) : IsUnbroken (first ++ rest) := by
  rw [IsUnbroken, String.toList_append, List.mem_append]
  exact not_or.mpr ⟨left, right⟩

theorem IsPlain.isUnbroken {text : String} (isPlain : IsPlain text) : IsUnbroken text :=
  fun member => isPlain '\n' member (by decide)

theorem IsOneLine.isUnbroken {text : String} (oneLine : IsOneLine text) : IsUnbroken text :=
  fun member => (oneLine '\n' member).2 rfl

/-- A literal stays on its line. -/
theorem isUnbroken_quote (field : String) : IsUnbroken (quote field) :=
  fun member => (not_isBreak_of_mem_quote member).2 rfl

/-- Only expressions bring line breaks into what is written alike. -/
theorem Alike.isUnbroken {known : String → Prop} {text other : String}
    {fields otherFields : List String}
    (unbroken : ∀ expression, known expression → IsUnbroken expression)
    (alike : Alike known text other fields otherFields) : IsUnbroken text := by
  induction alike with
  | plain isPlain => exact isPlain.isUnbroken
  | expression isKnown => exact unbroken _ isKnown
  | literal field _ => exact isUnbroken_quote field
  | behind isPlain _ inductionHypothesis => exact isPlain.isUnbroken.append inductionHypothesis
  | joined _ isPlain _ _ firstHypothesis restHypothesis =>
    exact (firstHypothesis.append isPlain.isUnbroken).append restHypothesis
  | enclosed bracket _ inductionHypothesis =>
    have opens : IsUnbroken (String.ofList [bracket.opening]) := by cases bracket <;> decide
    have closes : IsUnbroken (String.ofList [bracket.closing]) := by cases bracket <;> decide
    exact (opens.append inductionHypothesis).append closes

/-- The words of a form, apart from what is passed through and from remarks. -/
def Form.words : Form → String
  | statement call => call
  | block head => head
  | verbatim _ => ""
  | remark _ => ""

/-- What is written alike has no line breaks but those of expressions. -/
theorem Form.Alike.isUnbroken_words {known : String → Prop} {form other : Form}
    {fields otherFields : List String}
    (unbroken : ∀ expression, known expression → IsUnbroken expression)
    (alike : Form.Alike known form other fields otherFields) : IsUnbroken form.words := by
  have empty : IsUnbroken "" := by decide
  cases alike with
  | statement alike => exact alike.isUnbroken unbroken
  | block fixed => exact fixed.isUnbroken unbroken
  | verbatim code => exact empty
  | remark label other => exact empty

/-- The words of a payload are on one line if its expressions are. -/
theorem isUnbroken_words {payload : Payload}
    (unbroken : ∀ expression ∈ payload.expressions, IsUnbroken expression) :
    IsUnbroken (form payload).words :=
  (alike_form_masked unbroken).isUnbroken_words fun _ isUnbroken => isUnbroken

/-! ### Insertions behind line breaks -/

/-- A character with what is inserted behind it. -/
def characterAfterBreak (inserted : String) (character : Char) : List Char :=
  if character = '\n' then '\n' :: inserted.toList else [character]

section

variable (inserted first rest : String) {text : String}

theorem toList_afterBreaks (text : String) :
    (afterBreaks inserted text).toList = text.toList.flatMap (characterAfterBreak inserted) :=
  String.toList_ofList

/-- Behind line breaks something is put in each of two texts. -/
theorem afterBreaks_append :
    afterBreaks inserted (first ++ rest) =
      afterBreaks inserted first ++ afterBreaks inserted rest := by
  simp [afterBreaks]

theorem afterBreaks_break : afterBreaks inserted "\n" = "\n" ++ inserted := by
  simp [afterBreaks]

theorem afterBreaks_of_isUnbroken (unbroken : IsUnbroken text) :
    afterBreaks inserted text = text := by
  have same (character : Char) (member : character ∈ text.toList) :
      characterAfterBreak inserted character = [character] := by
    refine if_neg ?_
    rintro rfl
    exact unbroken member
  rw [← String.toList_inj, toList_afterBreaks, List.flatMap_congr same, List.flatMap_singleton']

theorem afterBreaks_empty (text : String) : afterBreaks "" text = text := by
  have same (character : Char) : characterAfterBreak "" character = [character] := by
    unfold characterAfterBreak
    split_ifs with breaks
    · exact congrArg (· :: []) breaks.symm
    · rfl
  rw [← String.toList_inj, toList_afterBreaks, funext same, List.flatMap_singleton']

/-- What is inserted first stands behind what is inserted later. -/
theorem afterBreaks_afterBreaks {inner : String} (unbroken : IsUnbroken inner)
    (outer text : String) :
    afterBreaks outer (afterBreaks inner text) = afterBreaks (outer ++ inner) text := by
  have twice (character : Char) :
      (characterAfterBreak inner character).flatMap (characterAfterBreak outer) =
        characterAfterBreak (outer ++ inner) character := by
    have kept := afterBreaks_of_isUnbroken outer unbroken
    rw [← String.toList_inj, toList_afterBreaks] at kept
    unfold characterAfterBreak at kept ⊢
    split_ifs with breaks
    · rw [List.flatMap_cons, kept, if_pos rfl, String.toList_append, List.cons_append]
    · rw [List.flatMap_singleton, if_neg breaks]
  rw [← String.toList_inj, toList_afterBreaks, toList_afterBreaks, toList_afterBreaks,
    List.flatMap_assoc, funext twice]

/-- No text becomes empty by an insertion, and the empty one stays empty. -/
theorem afterBreaks_eq_empty_iff : afterBreaks inserted text = "" ↔ text = "" := by
  have some (character : Char) : characterAfterBreak inserted character ≠ [] := by
    unfold characterAfterBreak
    split_ifs <;> simp
  rw [← String.toList_eq_nil_iff, toList_afterBreaks, List.flatMap_eq_nil_iff,
    ← String.toList_eq_nil_iff]
  constructor
  · exact fun none => List.eq_nil_iff_forall_not_mem.mpr fun character member =>
      some character (none character member)
  · intro empty
    simp [empty]

end

/-! ### Lines moved to the right -/

/-- A text with an indent in front of each of its lines. -/
def indented (indent text : String) : String := indent ++ afterBreaks indent text

/-- The texts that are not empty, each on lines of its own. -/
def stacked (texts : List String) : String := "\n".intercalate (texts.filter (· ≠ ""))

section

variable {indent : String}

theorem indented_of_isUnbroken {text : String} (unbroken : IsUnbroken text) :
    indented indent text = indent ++ text := by
  rw [indented, afterBreaks_of_isUnbroken indent unbroken]

/-- Of two texts below each other the second one gets the indent in front, too. -/
theorem afterBreaks_above (text next : String) :
    afterBreaks indent (text ++ "\n" ++ next) =
      afterBreaks indent text ++ "\n" ++ indented indent next := by
  simp only [indented, afterBreaks_append, afterBreaks_break, String.append_assoc]

/-- Every line is moved: those of a text and those of the text below it. -/
theorem indented_above (text next : String) :
    indented indent (text ++ "\n" ++ next) =
      indented indent text ++ "\n" ++ indented indent next := by
  simp only [indented, afterBreaks_append, afterBreaks_break, String.append_assoc]

theorem indented_intercalate {texts : List String} (some : texts ≠ []) :
    indented indent ("\n".intercalate texts) =
      "\n".intercalate (texts.map (indented indent)) := by
  induction texts with
  | nil => exact absurd rfl some
  | cons first rest inductionHypothesis =>
    cases rest with
    | nil => simp
    | cons second later =>
      rw [String.intercalate_cons_cons, indented_above, inductionHypothesis (by simp),
        List.map_cons, List.map_cons, List.map_cons, String.intercalate_cons_cons]

/-- Given line by line, a text has the indent in front of each line. -/
theorem indented_lines {lines : List String} (some : lines ≠ [])
    (unbroken : ∀ line ∈ lines, IsUnbroken line) :
    indented indent ("\n".intercalate lines) = "\n".intercalate (lines.map (indent ++ ·)) := by
  rw [indented_intercalate some]
  exact congrArg _ (List.map_congr_left fun line member =>
    indented_of_isUnbroken (unbroken line member))

/-- Lines that are moved twice are moved once by both indents. -/
theorem indented_indented {inner : String} (unbroken : IsUnbroken inner) (text : String) :
    indented indent (indented inner text) = indented (indent ++ inner) text := by
  rw [indented, indented, indented, afterBreaks_append, afterBreaks_of_isUnbroken indent unbroken,
    afterBreaks_afterBreaks unbroken, String.append_assoc]

theorem inner_afterBreaks_eq_empty_iff {inserted : String} {texts : List String} :
    inner indent (texts.map (afterBreaks inserted)) = "" ↔ ∀ text ∈ texts, text = "" := by
  rw [inner_eq_empty_iff, List.forall_mem_map]
  simp only [afterBreaks_eq_empty_iff]

theorem inner_afterBreaks_ne_empty {inserted : String} {texts : List String}
    (filled : ∃ text ∈ texts, text ≠ "") :
    inner indent (texts.map (afterBreaks inserted)) ≠ "" := by
  simpa [inner_afterBreaks_eq_empty_iff] using filled

theorem filter_map_afterBreaks (inserted : String) (texts : List String) :
    (texts.map (afterBreaks inserted)).filter (· ≠ "") =
      (texts.filter (· ≠ "")).map (afterBreaks inserted) := by
  rw [List.filter_map]
  refine congrArg _ (List.filter_congr fun text _ => ?_)
  simp [afterBreaks_eq_empty_iff]

/-- The lines inside a block are the stacked texts of the children, all lines moved. -/
theorem inner_afterBreaks {texts : List String} (filled : ∃ text ∈ texts, text ≠ "") :
    inner indent (texts.map (afterBreaks indent)) = indented indent (stacked texts) := by
  have some : texts.filter (· ≠ "") ≠ [] := by
    obtain ⟨text, member, filled⟩ := filled
    exact List.ne_nil_of_mem (List.mem_filter.mpr ⟨member, by simpa using filled⟩)
  rw [inner, filter_map_afterBreaks, List.map_map, stacked, indented_intercalate some]
  rfl

end

/-! ### Forms at an indent -/

namespace Form

variable {form : Form}

theorem isUnbroken_spacedHead {head : String} (unbroken : IsUnbroken head) :
    IsUnbroken (spacedHead head) := by
  unfold spacedHead
  split_ifs
  · decide
  · exact unbroken.append (by decide)

theorem opening_eq_afterBreaks (unbroken : IsUnbroken form.words) (indent : String) :
    form.opening indent = afterBreaks indent (form.opening "") := by
  cases form with
  | statement call => rfl
  | block head =>
    have line : IsUnbroken (spacedHead head ++ "\x7b") :=
      (isUnbroken_spacedHead unbroken).append (by decide)
    exact (afterBreaks_of_isUnbroken indent line).symm
  | verbatim code => rfl
  | remark label =>
    have line : IsUnbroken ("// " ++ onOneLine label) :=
      IsUnbroken.append (by decide) (isOneLine_onOneLine label).isUnbroken
    have brace : IsUnbroken "\x7b" := by decide
    rw [opening, opening, String.append_empty, afterBreaks_above,
      afterBreaks_of_isUnbroken indent line, indented_of_isUnbroken brace, ← String.append_assoc]

/-- Without lines of children only what is passed through has line breaks. -/
theorem text_empty_eq_afterBreaks (unbroken : IsUnbroken form.words) (indent : String) :
    form.text indent "" = afterBreaks indent (form.text "" "") := by
  cases form with
  | statement call =>
    have line : IsUnbroken (call ++ ";") := IsUnbroken.append unbroken (by decide)
    exact (afterBreaks_of_isUnbroken indent line).symm
  | block head =>
    have line : IsUnbroken (spacedHead head ++ Bracket.curly.around "") :=
      (isUnbroken_spacedHead unbroken).append (by decide)
    rw [text, text, block_empty, block_empty, afterBreaks_of_isUnbroken indent line]
  | verbatim code =>
    rw [text, text, afterBreaks_empty]
    split_ifs
    · rfl
    · rfl
  | remark label =>
    have line : IsUnbroken ("// " ++ onOneLine label ++ " (no children)") :=
      (IsUnbroken.append (by decide) (isOneLine_onOneLine label).isUnbroken).append (by decide)
    rw [text, text, if_pos rfl, if_pos rfl, afterBreaks_of_isUnbroken indent line]

/-- The text of a form moves to the right if the texts of the children do. -/
theorem text_eq_afterBreaks (unbroken : IsUnbroken form.words) (indent : String)
    (texts : List String) :
    form.text indent
        (inner (indent ++ indentStep) (texts.map (afterBreaks (indent ++ indentStep)))) =
      afterBreaks indent
        (form.text "" (inner indentStep (texts.map (afterBreaks indentStep)))) := by
  by_cases encloses : form.Encloses
  · by_cases filled : ∃ text ∈ texts, text ≠ ""
    · have step : IsUnbroken indentStep := by decide
      have brace : IsUnbroken "\x7d" := by decide
      have regroup (opening inside indent : String) :
          opening ++ "\n" ++ inside ++ "\n" ++ indent ++ "\x7d" =
            opening ++ "\n" ++ (inside ++ "\n" ++ (indent ++ "\x7d")) := by
        simp only [String.append_assoc]
      rw [text_of_ne_empty encloses (inner_afterBreaks_ne_empty filled),
        text_of_ne_empty encloses (inner_afterBreaks_ne_empty filled), inner_afterBreaks filled,
        inner_afterBreaks filled, opening_eq_afterBreaks unbroken, regroup, regroup,
        afterBreaks_above, indented_above, indented_indented step, String.empty_append,
        indented_of_isUnbroken brace]
    · have none (inserted indent : String) :
          inner indent (texts.map (afterBreaks inserted)) = "" := by
        simpa [inner_afterBreaks_eq_empty_iff] using filled
      rw [none, none, text_empty_eq_afterBreaks unbroken]
  · rw [text_of_not_encloses encloses, text_of_not_encloses encloses "",
      text_empty_eq_afterBreaks unbroken]

end Form

end Source

open Source

/-! ### Solids at an indent -/

/-- No expression of a payload has a line break. -/
def Payload.IsUnbroken (payload : Payload) : Prop :=
  ∀ expression ∈ payload.expressions, Source.IsUnbroken expression

namespace Solid

/-- The text of a solid at an indent is its own text with the indent behind each line break. -/
def Moves (solid : Solid) : Prop :=
  ∀ indent, solid.source indent = afterBreaks indent (solid.source "")

/-- The texts of solids at an indent are those at no indent, moved. -/
theorem map_source_eq {solids : List Solid} (moves : ∀ solid ∈ solids, solid.Moves)
    (indent : String) :
    solids.map (source indent) = (solids.map (source "")).map (afterBreaks indent) := by
  rw [List.map_map]
  exact List.map_congr_left fun solid member => moves solid member indent

/-- Without line breaks in expressions every solid moves with its indent. -/
theorem moves_of_isUnbroken {solids : List Solid}
    (unbroken : ∀ solid ∈ solids, solid.Holds Payload.IsUnbroken) :
    ∀ solid ∈ solids, solid.Moves := by
  induction solids using list_induction with
  | nil => exact fun solid member => absurd member List.not_mem_nil
  | cons payload children rest childrenHypothesis restHypothesis =>
    rw [List.forall_mem_cons, holds_node_iff] at unbroken
    obtain ⟨⟨here, below⟩, later⟩ := unbroken
    refine List.forall_mem_cons.mpr ⟨fun indent => ?_, restHypothesis later⟩
    have moves := map_source_eq (childrenHypothesis below)
    rw [source_node, source_node, String.empty_append, moves (indent ++ indentStep),
      moves indentStep]
    exact Form.text_eq_afterBreaks (isUnbroken_words here) indent _

/-- The text of a solid that writes its children, if they move and one of them has a text. -/
theorem source_of_moves {payload : Payload} {children : List Solid}
    (enclosing : payload.kind ∈ Kind.enclosing) (moves : ∀ child ∈ children, child.Moves)
    (filled : ∃ child ∈ children, child.source "" ≠ "") (indent : String) :
    (node payload children).source indent =
      (form payload).opening indent ++ "\n" ++
        indented (indent ++ indentStep) (stacked (children.map (source ""))) ++ "\n" ++
        indent ++ "\x7d" := by
  have some : ∃ text ∈ children.map (source ""), text ≠ "" := by simpa using filled
  rw [source_node, map_source_eq moves, Form.text_of_ne_empty (Form.encloses_iff.mpr enclosing)
    (inner_afterBreaks_ne_empty some), inner_afterBreaks some]

end Solid

/-! ### Nodes at an indent -/

namespace Scene

/-- The text of a live node without a cycle below it, at any indent, is its own text with the
indent behind each line break, if no expression below it has one. If it writes its children and
one of them has a text, the lines between its braces are those of the texts of the children, in
order and without the empty ones, all moved by two more spaces than the node. -/
theorem source_moves_with_indent {scene : Scene} (built : scene.IsBuilt) {handle : Handle}
    {node : Node} (found : scene.nodes.get? handle = some node)
    (acyclic : scene.IsAcyclicFrom handle)
    (unbroken : ∀ other lower, scene.Reaches handle other → scene.nodes.get? other = some lower →
      lower.payload.IsUnbroken) (indent : String) :
    scene.source indent handle = afterBreaks indent (scene.source "" handle) ∧
      (node.payload.kind ∈ Kind.enclosing →
        (∃ child ∈ node.children, scene.source "" child ≠ "") →
        scene.source indent handle = (form node.payload).opening indent ++ "\n" ++
          indented (indent ++ "  ") (stacked (node.children.map (scene.source ""))) ++ "\n" ++
          indent ++ "\x7d") := by
  obtain ⟨payload, children⟩ := node
  obtain ⟨⟨other, solids⟩, unfolds⟩ :=
    exists_unfolds built.isClosed (Arena.contains_of_get? found) acyclic
  obtain ⟨lower, otherFound, below⟩ := unfolds_node_iff.mp unfolds
  rw [found, Option.some.injEq, Node.mk.injEq] at otherFound
  obtain ⟨rfl, rfl⟩ := otherFound
  have holds := unfolds.holds_iff.mpr unbroken
  have moves := Solid.moves_of_isUnbroken (List.forall_mem_singleton.mpr holds)
  have childMoves := Solid.moves_of_isUnbroken (Solid.holds_node_iff.mp holds).2
  rw [unfolds.source_eq, unfolds.source_eq, map_source_eq_of_unfolds below]
  refine ⟨List.forall_mem_singleton.mp moves indent, fun enclosing filled => ?_⟩
  refine Solid.source_of_moves enclosing childMoves ?_ indent
  obtain ⟨child, member, some⟩ := filled
  obtain ⟨solid, solidMember, childUnfolds⟩ := exists_mem_of_forall₂ below member
  exact ⟨solid, solidMember, childUnfolds.source_eq "" ▸ some⟩

/-- A scene with raw source of two lines and a blank one, below a node of an unknown name. -/
def remarked : Scene :=
  Operation.afterAll .empty [.insert .union, .insert (.unknown "odd\nname" []),
    .insert (.raw "a();\nb();"), .insert (.raw " \n"), .append (.under ⟨2, 1⟩) ⟨3, 1⟩,
    .append (.under ⟨2, 1⟩) ⟨4, 1⟩, .append (.under ⟨1, 1⟩) ⟨2, 1⟩, .append .top ⟨1, 1⟩]

/-- The solid of the node of the unknown name. -/
def oddlyNamed : Solid :=
  .node (.unknown "odd\nname" []) [.node (.raw "a();\nb();") [], .node (.raw " \n") []]

theorem isBuilt_remarked : remarked.IsBuilt :=
  IsBuilt.empty.afterAll (by simp [Operation.IsAdmitted])

theorem unfolds_oddlyNamed_children :
    List.Forall₂ remarked.Unfolds [⟨3, 1⟩, ⟨4, 1⟩] oddlyNamed.children := by
  have raw : remarked.Unfolds ⟨3, 1⟩ (.node (.raw "a();\nb();") []) :=
    unfolds_node_iff.mpr ⟨[], by cbv, List.Forall₂.nil⟩
  have blank : remarked.Unfolds ⟨4, 1⟩ (.node (.raw " \n") []) :=
    unfolds_node_iff.mpr ⟨[], by cbv, List.Forall₂.nil⟩
  exact .cons raw (.cons blank .nil)

/-- Behind a tab the two lines of raw source stand behind a tab and two spaces. -/
theorem source_moves_with_indent_remarked :
    remarked.source "\t" ⟨2, 1⟩ = afterBreaks "\t" (remarked.source "" ⟨2, 1⟩) ∧
      remarked.source "\t" ⟨2, 1⟩ = "// odd name\n\t\x7b\n\t  a();\n\t  b();\n\t\x7d" := by
  have found : remarked.nodes.get? ⟨2, 1⟩ =
      some ⟨.unknown "odd\nname" [], [⟨3, 1⟩, ⟨4, 1⟩]⟩ := by cbv
  have unfolds : remarked.Unfolds ⟨2, 1⟩ oddlyNamed :=
    unfolds_node_iff.mpr ⟨_, found, unfolds_oddlyNamed_children⟩
  have texts := map_source_eq_of_unfolds unfolds_oddlyNamed_children ""
  have filled : remarked.source "" ⟨3, 1⟩ ≠ "" := by
    rw [(List.forall₂_cons.mp unfolds_oddlyNamed_children).1.source_eq]
    decide
  have unbroken : ∀ other lower, remarked.Reaches ⟨2, 1⟩ other →
      remarked.nodes.get? other = some lower → lower.payload.IsUnbroken := unfolds.holds_iff.mp
    (by simp [oddlyNamed, Solid.holds_node_iff, Payload.IsUnbroken, Payload.expressions])
  obtain ⟨moved, lines⟩ := source_moves_with_indent isBuilt_remarked found
    unfolds.isAcyclicFrom unbroken "\t"
  refine ⟨moved, (lines (by decide) ⟨⟨3, 1⟩, List.mem_cons_self, filled⟩).trans ?_⟩
  have written : oddlyNamed.children.map (Solid.source "") = ["a();\nb();", ""] := by decide
  rw [texts, written]
  cbv

end Scene

end SolidScene
