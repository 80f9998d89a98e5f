/-
This file frees the nodes that cannot be reached from the top of a scene. The search
takes every node that it finds out of a list of the nodes still to be found, so it
ends also where nodes stand in several lists or below themselves.

The search keeps two lists: the live nodes not found yet, which gets shorter with
every find, and the handles still to be looked at, with the children of a node found
put in front of them. A handle that is not live, or that was found before, is passed
over. What is freed is everything that the search did not find; the nodes that stay
keep their handles, their payloads and their lists, dead handles in the lists
included.
-/
import SolidScene.Scene.Basic

namespace SolidScene

/-- The members of `remaining` that can be reached from `pending` along `next`, passing only
through members of `remaining`. -/
def gather (next : Handle → List Handle) (remaining pending : List Handle) : List Handle :=
  match pending with
  | [] => []
  | handle :: rest =>
    if _found : handle ∈ remaining then
      handle :: gather next (remaining.erase handle) (next handle ++ rest)
    else gather next remaining rest
termination_by (remaining.length, pending.length)
decreasing_by
  · have smaller := List.length_erase_of_mem _found
    have positive := List.length_pos_of_mem _found
    exact Prod.Lex.left _ _ (by omega)
  · exact Prod.Lex.right _ (by simp)

namespace Scene

/-- The live nodes that can be reached from the top. -/
def reachable (scene : Scene) : List Handle :=
  gather scene.children scene.nodes.handles scene.top

/-- The scene without the nodes that cannot be reached. -/
def pruned (scene : Scene) : Scene :=
  let reachable := scene.reachable
  { scene with nodes := scene.nodes.retain fun handle => reachable.contains handle }

end Scene

end SolidScene
