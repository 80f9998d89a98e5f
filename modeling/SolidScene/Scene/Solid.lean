/-
This file unfolds a scene: below each node stand, as a tree, the trees of its
children. A node that stands in two lists has a tree in each of them. The generated
source and the report of a scene are read off its trees.

A scene may hold a node below itself, and then its trees would have no end.
Unfolding therefore goes down to a given depth, the number of nodes of the scene:
where no node is below itself no path is longer, so nothing is cut off, and where
one is, what is generated is still finite. A child that is no live handle has no
tree and is left out.
-/
import SolidScene.Scene.Basic

namespace SolidScene

/-- A payload over the solids of its children. -/
inductive Solid where
  | node (payload : Payload) (children : List Solid)
deriving Inhabited

/-- The payload of the node that a solid begins with. -/
def Solid.payload : Solid → Payload
  | node payload _ => payload

/-- The solids directly below the first node, in order. -/
def Solid.children : Solid → List Solid
  | node _ children => children

namespace Scene

/-- The solid of a node, down to a depth. A handle that is not live has none. -/
def unfold (scene : Scene) : (depth : Nat) → Handle → Option Solid
  | 0, _ => none
  | depth + 1, handle =>
    (scene.nodes.get? handle).map fun node =>
      .node node.payload (node.children.filterMap (scene.unfold depth))

/-- The solid of a node. Where no node is below itself, no path down has more nodes than the
scene, so the depth cuts nothing off. -/
def solid? (scene : Scene) (handle : Handle) : Option Solid := scene.unfold scene.size handle

/-- The solids of the nodes at the top, in order. -/
def solids (scene : Scene) : List Solid :=
  let depth := scene.size
  scene.top.filterMap (scene.unfold depth)

/-- The solids of a scene are those of its nodes at the top, each for itself. -/
theorem solids_eq (scene : Scene) : scene.solids = scene.top.filterMap scene.solid? := rfl

end Scene

end SolidScene
