/-
This file reads and writes the fields of typed nodes. Each type of field has one
JSON form, and says what a document means that leaves the field out. Reading is
strict: a value of another form is a misfit, with the reason.

A field that may be missing is written as null, and so an absent field and a null
are read alike. Arguments can be written in several ways, as a number, an expression
or a list; a value that is none of these is a misfit that names no way in
particular. A point has a fixed number of coordinates, and a list of another length
is told apart from one with a coordinate that is no number, in the order in which
the items are met.
-/
import SolidScene.Node.Misfit
import SolidScene.Node.Payload

namespace SolidScene

/-- A type of fields with a JSON form. -/
class Field (α : Type) where
  /-- The value of a field, or why it does not fit. -/
  read : Json → Except Misfit α
  /-- The JSON form of a value. -/
  write : α → Json
  /-- The value of a field that is left out, where that is allowed. -/
  absent? : Option α := none

namespace Field

/-! ### Numbers, truth values and texts -/

instance : Field Binary64 where
  read json := match json with
    | .number value =>
      match value.toBinary64? with
      | some number => .ok number
      | none => .error (.wrongType json .number)
    | found => .error (.wrongType found .number)
  write := .ofBinary64

instance : Field Bool where
  read
    | .bool value => .ok value
    | found => .error (.wrongType found .boolean)
  write := .bool

instance : Field String where
  read
    | .string value => .ok value
    | found => .error (.wrongType found .text)
  write := .string

instance : Field Props where
  read
    | .object entries => .ok entries
    | found => .error (.wrongType found .bag)
  write := .object

/-! ### Words -/

/-- The value of a word, or what is wrong with it. -/
def readWord {α : Type} [Keyword α] (word : String) : Except Misfit α :=
  match Keyword.ofWord? word with
  | some value => .ok value
  | none => .error (.unknownWord word (Keyword.words α))

/-- A word may also be the only name of an object, with nothing of meaning beside it. -/
def readKeyword {α : Type} [Keyword α] : Json → Except Misfit α
  | .string word => readWord word
  | .object [(word, beside)] => do
    let value ← readWord word
    match beside with
    | .null => return value
    | .object [] => return value
    | found => throw (.wrongType found .nothing)
  | .object _ => .error .notOneName
  | found => .error (.wrongType found .keyword)

instance {α : Type} [Keyword α] : Field α where
  read := readKeyword
  write value := .string (Keyword.word value)

/-! ### Arguments -/

/-- An argument as a number or an expression, if the value is one. -/
def scalar? : Json → Option Scalar
  | .number value => value.toBinary64?.map .number
  | .string text => some (.expression text)
  | _ => none

/-- A number or an expression as a value. -/
def writeScalar : Scalar → Json
  | .number value => .ofBinary64 value
  | .expression text => .string text

instance : Field Scalar where
  read json := match scalar? json with
    | some value => .ok value
    | none => .error (.noAlternative .scalar)
  write := writeScalar

/-- An argument for two axes, if the value is one. -/
def vec2? : Json → Option Vec2
  | .array [x, y] => return .components (← scalar? x) (← scalar? y)
  | json => (scalar? json).map .uniform

instance : Field Vec2 where
  read json := match vec2? json with
    | some value => .ok value
    | none => .error (.noAlternative .vec2)
  write
    | .uniform value => writeScalar value
    | .components x y => .array [writeScalar x, writeScalar y]

/-- An argument for three axes, if the value is one. -/
def vec3? : Json → Option Vec3
  | .array [x, y, z] => return .components (← scalar? x) (← scalar? y) (← scalar? z)
  | json => (scalar? json).map .uniform

instance : Field Vec3 where
  read json := match vec3? json with
    | some value => .ok value
    | none => .error (.noAlternative .vec3)
  write
    | .uniform value => writeScalar value
    | .components x y z => .array [writeScalar x, writeScalar y, writeScalar z]

/-! ### Lists -/

/-- A list whose items all fit; of several misfits the first counts. -/
def readList {α : Type} [Field α] : Json → Except Misfit (List α)
  | .array items => items.mapM Field.read
  | found => .error (.wrongType found .list)

instance {α : Type} [Field α] : Field (List α) where
  read := readList
  write items := .array (items.map Field.write)

/-- A point has as many coordinates as there are axes. Coordinates are read one by one, so that
one that is no number is found before the list turns out too short or too long. -/
def readPoint (axes : Nat) : Json → Except Misfit (Point axes)
  | .array items => do
    let coordinates ← (items.take axes).mapM (Field.read (α := Binary64))
    if fits : coordinates.length = axes then
      if items.length = axes then return ⟨coordinates.toArray, by simpa using fits⟩
      else throw (.tooLong items.length axes)
    else throw (.tooShort items.length (.tuple axes))
  | found => .error (.wrongType found (.tuple axes))

instance {axes : Nat} : Field (Point axes) where
  read := readPoint axes
  write point := .array (point.toList.map Json.ofBinary64)

/-! ### Fields that may be missing -/

instance {α : Type} [Field α] : Field (Option α) where
  read
    | .null => .ok none
    | json => (Field.read json).map some
  write
    | some value => Field.write value
    | none => .null
  absent? := some none

end Field

end SolidScene
