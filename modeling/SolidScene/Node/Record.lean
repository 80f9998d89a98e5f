/-
This file reads several fields together. A record stands in an object under the
names of its fields, or in a list in the order of its fields. In an object the
fields that are present are read in the order of the document, and only then a
missing one is noticed; in a list none may be missing.

A record is a structure of functions and no list of fields, since the fields have
different types. Records are put together like applicative values, one field at a
time, so the reader of a kind is written as its constructor applied to its fields.
The two passes over an object are why a record tells the misfit of a single entry
beside putting the whole together: of several misfits the one that stands first in
the document counts, whichever field it belongs to.
-/
import SolidScene.Node.Field

namespace SolidScene

/-- A reader of several named fields. -/
structure Record (α : Type) where
  /-- The number of fields. -/
  size : Nat
  /-- What is wrong with a value under a name, if it is the name of a field. -/
  misfit? : String → Json → Option Misfit
  /-- The record in an object whose entries all fit. -/
  gather : Props → Except Misfit α
  /-- The record in front of a list, and the items behind it; `given` and `expected` word the
  misfit of a list that ends too early. -/
  gatherItems : (given : Nat) → (expected : Expected) → List Json →
    Except Misfit (α × List Json)

namespace Record

/-- One field. In an object it may be left out if its type has a value for that. -/
def field {α : Type} [Field α] (name : String) : Record α where
  size := 1
  misfit? other json :=
    if other = name then
      match Field.read (α := α) json with
      | .ok _ => none
      | .error misfit => some misfit
    else none
  gather entries :=
    match entries.value? name with
    | some json => Field.read json
    | none =>
      match Field.absent? (α := α) with
      | some value => .ok value
      | none => .error (.missing name)
  gatherItems given expected
    | json :: rest => (Field.read json).map (·, rest)
    | [] => .error (.tooShort given expected)

/-- A value that needs no field. -/
protected def pure {α : Type} (value : α) : Record α where
  size := 0
  misfit? _ _ := none
  gather _ := .ok value
  gatherItems _ _ items := .ok (value, items)

/-- The fields of two records, the ones of the first in front. -/
protected def seq {α β : Type} (first : Record (α → β)) (second : Record α) : Record β where
  size := first.size + second.size
  misfit? name json := first.misfit? name json <|> second.misfit? name json
  gather entries := do
    let build ← first.gather entries
    let value ← second.gather entries
    return build value
  gatherItems given expected items := do
    let (build, items) ← first.gatherItems given expected items
    let (value, items) ← second.gatherItems given expected items
    return (build value, items)

instance : Applicative Record where
  pure := Record.pure
  seq first second := Record.seq first (second ())

/-- The record in an object: first every entry is looked at, in order, then the record is
put together. -/
def ofEntries {α : Type} (record : Record α) (entries : Props) : Except Misfit α :=
  match entries.findSome? fun entry => record.misfit? entry.1 entry.2 with
  | some misfit => .error misfit
  | none => record.gather entries

/-- The record in a list. A record without fields expects an empty list. -/
def ofItems {α : Type} (record : Record α) (expected : Expected) (items : List Json) :
    Except Misfit α := do
  let (value, rest) ← record.gatherItems items.length expected items
  if rest.isEmpty then return value else throw (.tooLong items.length record.size)

end Record

end SolidScene
