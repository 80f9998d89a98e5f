/-
This file reports the size of every node of a scene: the bytes of the source text
that the node has by itself, the nodes below it included. The total adds up the
nodes at the top only, since they contain all others.

A report is a forest of entries with the shape of the solids of the scene. It can be
shown as lines, indented by depth with the total as the last one, and as JSON. The
text of a node counts as it would be generated at the top, without an indent, so the
size of an entry is not the number of bytes that the node takes up inside the text
of its parent, and the empty lines between the nodes at the top belong to no entry.
-/
import SolidScene.Json.Writer
import SolidScene.Source.Generate

namespace SolidScene

/-- What a report says about a node and the nodes below it. -/
inductive Entry where
  | node (kind : Kind) (size : Nat) (children : List Entry)
deriving Inhabited

/-- The sizes of all nodes of a scene. -/
structure Report where
  /-- The entries of the nodes at the top, in order. -/
  entries : List Entry
  /-- The bytes of the nodes at the top. -/
  total : Nat

namespace Entry

/-- The bytes of the node that an entry is about. -/
def size : Entry → Nat
  | node _ size _ => size

mutual

/-- The entry of a solid: its text is generated without an indent and its bytes are counted. -/
def ofSolid : Solid → Entry
  | .node payload children =>
    node payload.kind ((Solid.node payload children).source "").utf8ByteSize (ofSolids children)

/-- The entries of solids, in order. -/
def ofSolids : List Solid → List Entry
  | [] => []
  | solid :: rest => ofSolid solid :: ofSolids rest

end

mutual

/-- The entries from an entry down. -/
def count : Entry → Nat
  | node _ _ children => 1 + countAll children

/-- The entries from several entries down. -/
def countAll : List Entry → Nat
  | [] => 0
  | entry :: rest => entry.count + countAll rest

end

/-- The line of an entry at a depth: two spaces for each level, the kind and the bytes. -/
def line (depth : Nat) (kind : Kind) (size : Nat) : String :=
  "".pushn ' ' (2 * depth) ++ kind.name ++ " (" ++ toString size ++ " B)"

mutual

/-- The lines of an entry at a depth: its own and then those of the entries below. -/
def lines (depth : Nat) : Entry → List String
  | node kind size children => line depth kind size :: linesAll (depth + 1) children

/-- The lines of entries at one depth, one entry after the other. -/
def linesAll (depth : Nat) : List Entry → List String
  | [] => []
  | entry :: rest => entry.lines depth ++ linesAll depth rest

end

mutual

/-- An entry as JSON: the name of the kind, the bytes and the entries below. -/
def toJson : Entry → Json
  | node kind size children =>
    .object [("kind", .string kind.name), ("size", .ofNat size),
      ("children", .array (toJsonAll children))]

/-- The JSON of several entries, in order. -/
def toJsonAll : List Entry → List Json
  | [] => []
  | entry :: rest => entry.toJson :: toJsonAll rest

end

end Entry

namespace Report

/-- The number of entries of a report, which is the number of nodes that it is about. -/
def count (report : Report) : Nat := Entry.countAll report.entries

/-- The report as lines, the total at the end. -/
def text (report : Report) : String :=
  "\n".intercalate
    (Entry.linesAll 0 report.entries ++ ["total: " ++ toString report.total ++ " B"])

/-- A report as JSON: its entries and the total. -/
def toJson (report : Report) : Json :=
  .object [("entries", .array (Entry.toJsonAll report.entries)),
    ("total_bytes", .ofNat report.total)]

end Report

-- The empty sum is the zero of the core library, also where another library brings its own.
attribute [local instance (high)] Zero.ofOfNat0

/-- The report of a scene: an entry for each solid, and the bytes of the nodes at the top added up.
-/
def Scene.report (scene : Scene) : Report :=
  let entries := Entry.ofSolids scene.solids
  ⟨entries, (entries.map Entry.size).sum⟩

end SolidScene
