/-
This file generates the source text of solids and scenes. Inside a block each child
starts a line of its own, two spaces further in; children without a text are left
out. The solids at the top are separated by empty lines, below a line that names the
generator.

The text of a solid does not begin with its indent: the place that puts the text on
a line writes the indent in front. So a solid at the top has the text of the indent
that is empty, and the only thing that makes the text of a node depend on where it
stands is the indent handed down to it. The function recurs over solids, not over
handles, and therefore needs no bound on the depth.
-/
import SolidScene.Scene.Solid
import SolidScene.Source.Statement

namespace SolidScene

namespace Source

/-- The line that opens every generated text. -/
def credit : String := "// Generated using scadgen"

/-- The lines inside a block, given the texts of the children: each text that is not empty,
behind the indent. -/
def inner (indent : String) (texts : List String) : String :=
  "\n".intercalate ((texts.filter (· ≠ "")).map (indent ++ ·))

/-- The whole text, given the texts of the solids at the top. -/
def document (texts : List String) : String :=
  "\n\n".intercalate (credit :: texts.filter (· ≠ ""))

end Source

namespace Solid

mutual

/-- The source text of a solid at an indent. -/
def source (indent : String) : Solid → String
  | .node payload children =>
    (Source.form payload).text indent
      (Source.inner (indent ++ Source.indentStep)
        (sources (indent ++ Source.indentStep) children))

/-- The source texts of solids at one indent, in order. -/
def sources (indent : String) : List Solid → List String
  | [] => []
  | solid :: rest => solid.source indent :: sources indent rest

end

@[simp] theorem sources_eq_map (indent : String) (solids : List Solid) :
    sources indent solids = solids.map (source indent) := by
  induction solids with
  | nil => rfl
  | cons solid rest inductionHypothesis => simp [sources, inductionHypothesis]

end Solid

namespace Scene

/-- The source text of a node at an indent; a handle that is not live has the empty text. -/
def source (scene : Scene) (indent : String) (handle : Handle) : String :=
  ((scene.solid? handle).map (Solid.source indent)).getD ""

/-- The source text of a scene: the line of credit and the texts of the solids at the top. -/
def text (scene : Scene) : String := Source.document (scene.solids.map (Solid.source ""))

end Scene

end SolidScene
