/-
This file holds the edits of a scene. An edit either succeeds with an answer or
fails with a fault; both ways it leaves a scene behind, and an edit of several steps
that fails leaves what its steps had made so far. The only thing an edit checks is
that the handles it uses are live.

Edits are programs over a scene as their state, so that the failure of a step ends
the steps behind it and keeps the scene that the steps before it made. There are
edits of nodes, which create, change and copy them, and edits of lists, which put a
node into one, take it out, or empty the list at the top. A node taken out of a list
is not freed by that: pruning frees it, once it cannot be reached. Since nothing
else is checked, a node may be put into several lists, and also below itself.
-/
import SolidScene.Props.Update
import SolidScene.Scene.Prune
import SolidScene.Text.Shown

namespace SolidScene

/-- Why an edit fails. -/
inductive Fault where
  /-- A handle is used that refers to no node, or not any more. -/
  | unknownNode (handle : Handle)
  /-- A text stands where a node is needed. -/
  | bareText (text : String)
deriving DecidableEq, Inhabited

/-- The message of a fault, which names the handle or shows the text that is to blame. -/
def Fault.message : Fault → String
  | unknownNode handle => "node " ++ handle.text ++ " does not exist in this tree"
  | bareText text =>
    "text nodes are not supported, use only SCAD primitives (got " ++ Text.shown text ++ ")"

/-- A change of a scene that answers with an `α` or fails. -/
abbrev Edit (α : Type) := EStateM Fault Scene α

/-- The list with `child` in front of the first `before`, or at the end if there is none. -/
def placeBefore (child before : Handle) : List Handle → List Handle
  | [] => [child]
  | other :: rest =>
    if other = before then child :: other :: rest else other :: placeBefore child before rest

/-- Without the node in front of which it should stand, the child comes last. -/
theorem placeBefore_of_not_mem {child before : Handle} {list : List Handle}
    (absent : before ∉ list) : placeBefore child before list = list ++ [child] := by
  induction list with
  | nil => rfl
  | cons other rest inductionHypothesis =>
    obtain ⟨different, absent⟩ := List.ne_and_not_mem_of_not_mem_cons absent
    simp [placeBefore, Ne.symm different, inductionHypothesis absent]

/-- The child comes directly in front of the first `before`. -/
theorem placeBefore_append_cons {child before : Handle} {front rest : List Handle}
    (first : before ∉ front) :
    placeBefore child before (front ++ before :: rest) = front ++ child :: before :: rest := by
  induction front with
  | nil => simp [placeBefore]
  | cons other front inductionHypothesis =>
    obtain ⟨different, first⟩ := List.ne_and_not_mem_of_not_mem_cons first
    simp [placeBefore, Ne.symm different, inductionHypothesis first]

namespace Edit

/-! ### Nodes -/

/-- The node of a live handle. -/
def node (handle : Handle) : Edit Node := do
  match (← get).nodes.get? handle with
  | some node => return node
  | none => throw (.unknownNode handle)

/-- Add a node that is in no list. -/
def insertNode (node : Node) : Edit Handle :=
  modifyGet fun scene =>
    let (handle, nodes) := scene.nodes.insert node
    (handle, { scene with nodes })

/-- Add a childless node with a payload, in no list. -/
def insert (payload : Payload) : Edit Handle := insertNode ⟨payload, []⟩

/-- Add a childless node of a named kind, in no list. -/
def create (name : String) (bag : Props) : Edit Handle := insert (.create name bag)

/-- A text has no node. -/
def createText (text : String) : Edit Handle := throw (.bareText text)

/-- Change the fields of a node that a bag names. -/
def update (handle : Handle) (bag : Props) : Edit Unit := do
  let node ← node handle
  modify fun scene => scene.setNode handle { node with payload := node.payload.update bag }

/-- Copy a node, and below it the nodes down to a depth: first the copies of its children, in
order, then its own. -/
def copyDown : (depth : Nat) → Handle → Edit Handle
  | 0, handle => do
    let node ← node handle
    insert node.payload
  | depth + 1, handle => do
    let node ← node handle
    let children ← node.children.mapM (copyDown depth)
    insertNode ⟨node.payload, children⟩

/-- Copy a node without its children, or with all nodes below it. Where no node is below
itself, no path down has more nodes than the scene, so the depth cuts nothing off. -/
def clone (handle : Handle) (withChildren : Bool) : Edit Handle := do
  let scene ← get
  copyDown (if withChildren then scene.size else 0) handle

/-! ### Lists -/

/-- Fail unless a handle is live. -/
def ensureLive (handle : Handle) : Edit Unit := do
  unless (← get).contains handle do throw (.unknownNode handle)

/-- The list of a site. The one at the top is always there; a list of children needs a live parent.
-/
def list (site : Site) : Edit (List Handle) := do
  match site, (← get).list? site with
  | _, some list => return list
  | .under parent, none => throw (.unknownNode parent)
  | .top, none => return []

/-- Put a live node at the end of a list. -/
def append (site : Site) (child : Handle) : Edit Unit := do
  ensureLive child
  let list ← list site
  modify fun scene => scene.setList site (list ++ [child])

/-- Put a live node in front of another one of a list, or at its end. -/
def insertBefore (site : Site) (child before : Handle) : Edit Unit := do
  ensureLive child
  let list ← list site
  modify fun scene => scene.setList site (placeBefore child before list)

/-- Take a node out of a list, where it stands first; the node itself stays. -/
def remove (site : Site) (child : Handle) : Edit Unit := do
  let list ← list site
  modify fun scene => scene.setList site (list.erase child)

/-- Take all nodes out of the list at the top. -/
def clear : Edit Unit := modify fun scene => { scene with top := [] }

/-- Free the nodes that cannot be reached, and count them. -/
def prune : Edit Nat :=
  modifyGet fun scene =>
    let pruned := scene.pruned
    (scene.size - pruned.size, pruned)

end Edit

end SolidScene
