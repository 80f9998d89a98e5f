/-
This file reads a document without a scene: its parts in document order, the first
text among them and the nodes in front of it, and for a part without a text the
solid and the source that it stands for. Document order goes down before it goes on,
so a text anywhere below a part comes before the parts that follow.

None of this mentions handles or edits. It is what mounting is measured against: the
solids of a mounted document are to be those of its parts, the number of nodes
created is to be the number in front of the first text, and the source is to be the
one that is printed here straight from the parts. Facts of lists of parts are proved
by an induction that goes over the children of the first part and over the parts
after it at once.
-/
import Mathlib.Data.List.TakeWhile
import SolidScene.Document.Basic
import SolidScene.Props.Update
import SolidScene.Proofs.Scene.Unfolding

namespace SolidScene

namespace Part

/-! ### Document order -/

mutual

/-- A part and the parts below it, in document order. -/
def walk : Part → List Part
  | .text content => [.text content]
  | .node name props children => .node name props children :: walkAll children

/-- Parts and the parts below them, in document order. -/
def walkAll : List Part → List Part
  | [] => []
  | part :: rest => part.walk ++ walkAll rest

end

/-- The content of a text. -/
def content? : Part → Option String
  | .text content => some content
  | .node .. => none

/-- Whether no text is in a part, at any depth. -/
def isTextFree (part : Part) : Bool := part.walk.all fun other => other.content?.isNone

/-- The first text in document order. -/
def firstText? (parts : List Part) : Option String := (walkAll parts).findSome? content?

/-- The number of nodes in front of the first text in document order, or of all nodes if there
is no text. -/
def leadingNodes (parts : List Part) : Nat :=
  ((walkAll parts).takeWhile fun part => part.content?.isNone).length

/-- The parts in front of the first one that has a text in it. -/
def front (parts : List Part) : List Part := parts.takeWhile isTextFree

/-! ### What a part stands for -/

mutual

/-- The solid of a part: the payload of its type and properties over the solids of its
children. A part with a text in it has none. -/
def solid? : Part → Option Solid
  | .text _ => none
  | .node name props children => (solids? children).map (.node (.create name props))

/-- The solids of parts, if none of them has a text in it. -/
def solids? : List Part → Option (List Solid)
  | [] => some []
  | part :: rest => do some ((← part.solid?) :: (← solids? rest))

end

mutual

/-- The source of a part at an indent, printed straight from the document. -/
def source (indent : String) : Part → String
  | .text _ => ""
  | .node name props children =>
    (Source.form (.create name props)).text indent
      (Source.inner (indent ++ Source.indentStep)
        (sources (indent ++ Source.indentStep) children))

/-- The sources of parts at an indent. -/
def sources (indent : String) : List Part → List String
  | [] => []
  | part :: rest => part.source indent :: sources indent rest

end

/-! ### Lists of parts -/

/-- A fact of all lists of parts, from the children of the first part and the parts after it. -/
@[elab_as_elim]
theorem list_induction {motive : List Part → Prop} (nil : motive [])
    (text : ∀ content rest, motive rest → motive (.text content :: rest))
    (node : ∀ name props children rest, motive children → motive rest →
      motive (.node name props children :: rest)) : ∀ parts, motive parts
  | [] => nil
  | .text content :: rest => text content rest (list_induction nil text node rest)
  | .node name props children :: rest =>
    node name props children rest (list_induction nil text node children)
      (list_induction nil text node rest)
termination_by parts => sizeOf parts
decreasing_by all_goals simp only [List.cons.sizeOf_spec, Part.node.sizeOf_spec]; omega

@[simp] theorem firstText?_text (content : String) (rest : List Part) :
    firstText? (.text content :: rest) = some content := rfl

/-- A text below a node comes before the texts of the parts that follow. -/
@[simp] theorem firstText?_node (name : String) (props : Props) (children rest : List Part) :
    firstText? (.node name props children :: rest) =
      (firstText? children).or (firstText? rest) := by
  simp only [firstText?, walkAll, walk, List.cons_append, List.findSome?_cons, content?,
    List.findSome?_append]

/-- Without a text the whole walk is made of nodes. -/
theorem isNone_of_firstText?_eq_none {parts : List Part} (none : firstText? parts = none)
    {part : Part} (member : part ∈ walkAll parts) : part.content?.isNone := by
  rw [List.findSome?_eq_none_iff.mp none part member, Option.isNone_none]

/-- A node has no text in it if there is none below it. -/
theorem isTextFree_node_iff {name : String} {props : Props} {children : List Part} :
    (Part.node name props children).isTextFree ↔ firstText? children = none := by
  simp [isTextFree, firstText?, walk, content?]

/-! ### The parts in front -/

@[simp] theorem front_nil : front [] = [] := rfl

@[simp] theorem front_text (content : String) (rest : List Part) :
    front (.text content :: rest) = [] := rfl

/-- A node with a text below it is not in front, nor is anything after it. -/
theorem front_node {name : String} {props : Props} {children rest : List Part} :
    front (.node name props children :: rest) =
      if firstText? children = none then .node name props children :: front rest else [] := by
  by_cases none : firstText? children = none
  · rw [if_pos none, front, List.takeWhile_cons_of_pos (isTextFree_node_iff.mpr none), front]
  · rw [if_neg none, front, List.takeWhile_cons_of_neg fun free =>
      none (isTextFree_node_iff.mp free)]

/-- Without a text all parts are in front. -/
theorem front_eq_self {parts : List Part} (none : firstText? parts = none) :
    front parts = parts := by
  induction parts using list_induction with
  | nil => rfl
  | text content rest _ => simp at none
  | node name props children rest _ restHypothesis =>
    rw [firstText?_node, Option.or_eq_none_iff] at none
    rw [front_node, if_pos none.1, restHypothesis none.2]

@[simp] theorem leadingNodes_nil : leadingNodes [] = 0 := rfl

@[simp] theorem leadingNodes_text (content : String) (rest : List Part) :
    leadingNodes (.text content :: rest) = 0 := rfl

/-- Without a text all nodes are in front. -/
theorem takeWhile_walkAll {parts : List Part} (none : firstText? parts = none) :
    ((walkAll parts).takeWhile fun part => part.content?.isNone) = walkAll parts :=
  List.takeWhile_eq_self_iff.mpr fun _ member => isNone_of_firstText?_eq_none none member

/-- The nodes after a part count only if there is no text below it. -/
theorem leadingNodes_node (name : String) (props : Props) (children rest : List Part) :
    leadingNodes (.node name props children :: rest) =
      1 + leadingNodes children +
        (if firstText? children = none then leadingNodes rest else 0) := by
  have front : leadingNodes (.node name props children :: rest) =
      1 + ((walkAll children ++ walkAll rest).takeWhile
        fun part => part.content?.isNone).length := by
    simp [leadingNodes, walkAll, walk, content?, Nat.add_comm]
  rw [front, List.takeWhile_append]
  by_cases none : firstText? children = none
  · rw [if_pos none, if_pos (congrArg List.length (takeWhile_walkAll none)), List.length_append,
      leadingNodes, takeWhile_walkAll none, leadingNodes, Nat.add_assoc]
  · have short : ((walkAll children).takeWhile fun part => part.content?.isNone).length ≠
        (walkAll children).length := by
      intro whole
      have all := (List.takeWhile_prefix fun part : Part => part.content?.isNone).eq_of_length whole
      refine none (List.findSome?_eq_none_iff.mpr fun part member => ?_)
      exact Option.isNone_iff_eq_none.mp (List.takeWhile_eq_self_iff.mp all part member)
    rw [if_neg none, if_neg short, leadingNodes, Nat.add_zero]

/-! ### Parts without a text -/

theorem solids?_node_iff {name : String} {props : Props} {children rest : List Part}
    {solids : List Solid} :
    solids? (.node name props children :: rest) = some solids ↔
      ∃ below later, solids? children = some below ∧ solids? rest = some later ∧
        .node (.create name props) below :: later = solids := by
  simp [solids?, solid?, Option.bind_eq_some_iff]

/-- The source of parts is the one of their solids. -/
theorem sources_eq {parts : List Part} {solids : List Solid} (found : solids? parts = some solids)
    (indent : String) : sources indent parts = solids.map (Solid.source indent) := by
  induction parts using list_induction generalizing solids indent with
  | nil =>
    cases found
    rfl
  | text content rest _ => simp [solids?, solid?] at found
  | node name props children rest childrenHypothesis restHypothesis =>
    obtain ⟨below, later, belowFound, laterFound, rfl⟩ := solids?_node_iff.mp found
    rw [sources, source, childrenHypothesis belowFound, restHypothesis laterFound, List.map_cons,
      Solid.source, Solid.sources_eq_map]

end Part

namespace Document

/-- The text of a document, printed straight from its parts. -/
def source (document : Document) : String := Source.document (Part.sources "" document.parts)

end Document

end SolidScene
