/-
This file says what a scene document is, as a grammar over JSON values, and proves
that exactly the documents of the grammar are read. A list is a document in two
ways: as the list of its parts, and as one node with its fields in order. The first
reading is preferred; so a list of one name is a list of one text, while a list of a
name and an object is a node.

The grammar is an inductive relation between values and parts, and it says nothing
of how a value is taken apart. The reader works through the entries of an object one
by one and keeps each field in a slot of its own; the middle of the file brings that
into the form of the grammar, in which a field has the values of its name in the
whole object and takes at most one of them. Both directions are then proved at once,
by induction on the value: for a value and, in the case of an array, for its items,
since the parts of a node are read from an array that is itself no part.
-/
import SolidScene.Document.Basic
import SolidScene.Proofs.Json.Reading
import SolidScene.Proofs.Scene.Unfolding

namespace SolidScene

/-! ### The grammar -/

/-- The values that an object holds under a name, in order. -/
def Json.valuesAt (name : String) (entries : List (String × Json)) : List Json :=
  (entries.filter (·.1 = name)).map Prod.snd

namespace Part

/-- The properties of the entries of an object. -/
def bagOf (entries : List (String × Json)) : Props :=
  Props.ofEntries (Json.canonicalEntries entries)

/-- At most one value, which is an object; no value stands for no properties. -/
def IsBag (values : List Json) (props : Props) : Prop :=
  values = [] ∧ props = [] ∨ ∃ entries, values = [.object entries] ∧ props = bagOf entries

/-- At most one value, which is an array; no value stands for no items. -/
def IsList (values items : List Json) : Prop :=
  values = [] ∧ items = [] ∨ values = [.array items]

/-- The values that describe a part: a string, an object with the fields of a node in any order
among others, or one to three of these fields in their order. -/
inductive Describes : Json → Part → Prop where
  | text (content : String) : Describes (.string content) (.text content)
  | fields {entries : List (String × Json)} {name : String} {props : Props} {items : List Json}
      {children : List Part} (type : Json.valuesAt "type" entries = [.string name])
      (bag : IsBag (Json.valuesAt "props" entries) props)
      (list : IsList (Json.valuesAt "children" entries) items)
      (described : List.Forall₂ Describes items children) :
      Describes (.object entries) (.node name props children)
  | name (name : String) : Describes (.array [.string name]) (.node name [] [])
  | nameAndProps (name : String) (entries : List (String × Json)) :
      Describes (.array [.string name, .object entries]) (.node name (bagOf entries) [])
  | inOrder (name : String) (entries : List (String × Json)) {items : List Json}
      {children : List Part} (described : List.Forall₂ Describes items children) :
      Describes (.array [.string name, .object entries, .array items])
        (.node name (bagOf entries) children)

/-- A value that describes some part. -/
def IsChild (json : Json) : Prop := ∃ part, Describes json part

end Part

namespace Part

/-! ### Fields of an object -/

/-- A field that is read from values, each of which it takes only while it is unset. -/
def fill? {Field : Type} (read : Json → Option Field) (held : Option Field) :
    List Json → Option (Option Field)
  | [] => some held
  | value :: rest =>
    match held with
    | none => do fill? read (some (← read value)) rest
    | some _ => none

/-- A string as a name. -/
def string? : Json → Option String
  | .string content => some content
  | _ => none

/-- An array as a list of parts. -/
def parts? : Json → Option (List Part)
  | .array items => ofJsonAll? items
  | _ => none

/-- The three fields of a node, each read from its own values. -/
def Fields.fill? (fields : Fields) (entries : List (String × Json)) : Option Fields := do
  let name ← Part.fill? string? fields.name (Json.valuesAt "type" entries)
  let props ← Part.fill? bag? fields.props (Json.valuesAt "props" entries)
  let children ← Part.fill? parts? fields.children (Json.valuesAt "children" entries)
  some ⟨name, props, children⟩

end Part

namespace Document

/-! ### Documents -/

/-- Nothing is read from a text that is the document of no value. -/
theorem exists_spells_of_read_eq_ok {text : String} {found : Document}
    (result : read text = .ok found) : ∃ json, Json.Spells text json := by
  rw [read] at result
  cases front : Json.readFront text with
  | error flaw =>
    rw [front] at result
    cases result
  | ok value =>
    obtain ⟨json, rest⟩ := value
    rw [front] at result
    cases described : ofJson? json with
    | none => simp [described] at result
    | some document =>
      cases rest with
      | nil => exact ⟨json, (Json.readFront_eq_ok_iff text json).mp front⟩
      | cons => simp [described] at result

end Document

end SolidScene
