/-
This file holds the scene: nodes under handles, each with a payload and an ordered
list of children, and the ordered list of the nodes at the top. Nothing in the scene
forbids that a node stands in two lists or below itself; those who edit it keep it a
forest if they want one.

The lists of a scene are addressed by sites, so that an edit of the list at the top
and an edit of the children of a node are one edit at two sites. All edits are
composed of a few changes: a node more in the arena, another node under a live
handle, another list at a site, and the removal of nodes. A handle that is not live
has no payload and no children, and a change at it leaves the scene as it is.
-/
import SolidScene.Node.Payload
import SolidScene.Scene.Arena

namespace SolidScene

/-- A node: what it is, and the nodes directly below it in order. -/
structure Node where
  payload : Payload
  children : List Handle

/-- Two nodes are the same when their payloads are and they have the same children. -/
instance : BEq Node where
  beq left right := left.payload == right.payload && left.children == right.children

/-- A scene: its nodes, in a list or not, and the list at the top. -/
structure Scene where
  nodes : Arena Node
  top : List Handle

/-- A list of nodes in a scene. -/
inductive Site where
  /-- The list at the top of the scene. -/
  | top
  /-- The children of a node. -/
  | under (parent : Handle)
deriving DecidableEq

namespace Scene

/-- The scene without nodes. -/
def empty : Scene := ⟨.empty, []⟩

instance : Inhabited Scene := ⟨empty⟩

/-- The payload of a node; a handle that is not live has none. -/
def payload? (scene : Scene) (handle : Handle) : Option Payload :=
  (scene.nodes.get? handle).map Node.payload

/-- The children of a node; a handle that is not live has none. -/
def children (scene : Scene) (handle : Handle) : List Handle :=
  ((scene.nodes.get? handle).map Node.children).getD []

/-- Whether a handle refers to a node, in a list or not. -/
def contains (scene : Scene) (handle : Handle) : Bool := scene.nodes.contains handle

/-- The number of nodes, in a list or not. -/
def size (scene : Scene) : Nat := scene.nodes.size

/-- The list of a site, unless it is under a node that is not live. -/
def list? (scene : Scene) : Site → Option (List Handle)
  | .top => some scene.top
  | .under parent => (scene.nodes.get? parent).map Node.children

/-- The scene with another node under a live handle. -/
def setNode (scene : Scene) (handle : Handle) (node : Node) : Scene :=
  { scene with nodes := scene.nodes.set handle node }

/-- The scene with another list at a site. -/
def setList (scene : Scene) (site : Site) (list : List Handle) : Scene :=
  match site with
  | .top => { scene with top := list }
  | .under parent =>
    match scene.nodes.get? parent with
    | some node => scene.setNode parent { node with children := list }
    | none => scene

end Scene

end SolidScene
