/-
This file brings scene documents into a scene. A node is created first, then its
children are mounted into it, and last it is put into its list. So a node is
attached when everything below it is there, and nobody who follows the lists from
the top meets a node that is half done.

A document with a text in it fails, and what was made before stays: the nodes in
front of the text, of which only the ones above the failing part stay out of every
list. A later pruning frees those.
-/
import SolidScene.Document.Basic
import SolidScene.Scene.Edit

namespace SolidScene

namespace Edit

mutual

/-- Mount one part at the end of a list; a text cannot be mounted. -/
def mountPart (site : Site) : Part → Edit Unit
  | .text content => throw (.bareText content)
  | .node name props children => do
    let handle ← create name props
    mountAll (.under handle) children
    append site handle

/-- Mount parts at the end of a list, in order. -/
def mountAll (site : Site) : List Part → Edit Unit
  | [] => return ()
  | part :: rest => do
    mountPart site part
    mountAll site rest

end

/-- Mount a document at the end of the list at the top. -/
def mount (document : Document) : Edit Unit := mountAll .top document.parts

end Edit

end SolidScene
