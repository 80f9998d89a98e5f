/-
This file reads scene documents. A document is a list of parts or a single part; a
part is a text or a node. A node is an object with its type, its properties and its
children, or a list of these three in order. Only the type is required.

A list is tried as a list of parts first, so a list of one name is a list of one
text, while a list of a name and an object is a node. In a node that is an object
each of the three fields may occur once, and other names have no meaning. Texts are
parts like others as far as reading goes; that they have no place in a scene is
found when the document is mounted.

A document with a flaw in its text is told from one that is well-formed and no
scene, and the latter is noticed before anything that follows the value.
-/
import SolidScene.Json.Reader

namespace SolidScene

/-- A part of a scene document. -/
inductive Part where
  | text (content : String)
  | node (name : String) (props : Props) (children : List Part)
deriving Inhabited

/-- A scene document. -/
inductive Document where
  | many (parts : List Part)
  | one (part : Part)
deriving Inhabited

/-- Why a text is no scene document. -/
inductive Document.Flaw where
  /-- The text is no JSON document. -/
  | json (flaw : Json.Flaw)
  /-- The value of the document is no scene. -/
  | shape
deriving DecidableEq, Inhabited

/-- The fields of a node that were read so far. -/
structure Part.Fields where
  name : Option String
  props : Option Props
  children : Option (List Part)

namespace Part

/-- The node of its fields, if it has a type. -/
def ofFields? (fields : Fields) : Option Part :=
  fields.name.map fun name =>
    .node name (fields.props.getD []) (fields.children.getD [])

/-- The property bag of an object, sorted and without repetitions. -/
def bag? : Json → Option Props
  | .object entries => some (Props.ofEntries (Json.canonicalEntries entries))
  | _ => none

mutual

/-- The part that a JSON value describes. -/
def ofJson? : Json → Option Part
  | .string content => some (.text content)
  | .object entries => (readEntries? ⟨none, none, none⟩ entries).bind ofFields?
  | .array [.string name] => some (.node name [] [])
  | .array [.string name, props] => do some (.node name (← bag? props) [])
  | .array [.string name, props, .array children] => do
    some (.node name (← bag? props) (← ofJsonAll? children))
  | _ => none

/-- The parts that JSON values describe, if every value describes one. -/
def ofJsonAll? : List Json → Option (List Part)
  | [] => some []
  | json :: rest => do some ((← ofJson? json) :: (← ofJsonAll? rest))

/-- The fields of an object: each of the three names may occur once, and other names have no
meaning. -/
def readEntries? (fields : Fields) : List (String × Json) → Option Fields
  | [] => some fields
  | (name, value) :: rest =>
    if name = "type" then
      match fields.name, value with
      | none, .string type => readEntries? { fields with name := some type } rest
      | _, _ => none
    else if name = "props" then
      match fields.props, bag? value with
      | none, some props => readEntries? { fields with props := some props } rest
      | _, _ => none
    else if name = "children" then
      match fields.children, value with
      | none, .array items =>
        match ofJsonAll? items with
        | some children => readEntries? { fields with children := some children } rest
        | none => none
      | _, _ => none
    else readEntries? fields rest

end

end Part

namespace Document

/-- The parts of a document, in order. -/
def parts : Document → List Part
  | many parts => parts
  | one part => [part]

/-- The document that a JSON value describes: a list of parts if it can be read as one, else a
single part. -/
def ofJson? (json : Json) : Option Document :=
  let list? : Option Document := match json with
    | .array items => (Part.ofJsonAll? items).map many
    | _ => none
  list? <|> (Part.ofJson? json).map one

/-- The document that a text holds. A value that is no scene is noticed before anything that
follows the value. -/
def read (text : String) : Except Flaw Document :=
  match Json.readFront text with
  | .error flaw => .error (.json flaw)
  | .ok (json, rest) =>
    match ofJson? json with
    | none => .error .shape
    | some document => if rest.isEmpty then .ok document else .error (.json .malformed)

end Document

end SolidScene
