/-
This file holds the JSON values that scene files, property bags and answers are made
of. Whole numbers that fit 64 bits keep their own form beside the binary numbers, as
they do where documents are read and written, so that `1` and `1.0` stay apart until
somebody asks for a number.

An object is the list of its entries: as they stand in a document, with repetitions,
until `canonical` sorts them and keeps the last of each name. Both forms are needed.
The reader of scene documents turns down a node with one of its fields twice, so it
has to see the entries as they stand; everything else works on canonical values,
where two objects with the same entries are the same list. A property bag is such a
list as well, and it is looked up by name only.
-/
import SolidScene.Binary64.Nearest

namespace SolidScene

/-- A number of a JSON document: whole and within 64 bits, or binary. -/
inductive Json.Number where
  | whole (value : Int)
  | binary (value : Binary64)
deriving DecidableEq, Inhabited

/-- Numbers of one form are compared by value; a whole number is no binary one. -/
instance : BEq Json.Number where
  beq
    | .whole left, .whole right => left = right
    | .binary left, .binary right => left == right
    | _, _ => false

/-- A value of a JSON document. -/
inductive Json where
  | null
  | bool (value : Bool)
  | number (value : Json.Number)
  | string (value : String)
  | array (items : List Json)
  /-- The entries are in document order, or sorted if the value is canonical. -/
  | object (entries : List (String × Json))
deriving Inhabited

/-- A property bag: names and values, sorted by name when it comes from a document. -/
abbrev Props := List (String × Json)

namespace Json

/-- The number as a 64-bit binary one: the nearest, if it is in range. -/
def Number.toBinary64? : Number → Option Binary64
  | .whole value => Binary64.ofInt? value
  | .binary value => some value

/-- A binary number as a value; JSON has no infinities, and nothing for what is not a number. -/
def ofBinary64 (value : Binary64) : Json :=
  if value.isFinite then .number (.binary value) else .null

/-- A count as a value. -/
def ofNat (value : Nat) : Json := .number (.whole value)

/-! ### Equality -/

mutual

/-- Two values are the same when they are built alike from the same strings and from numbers
that are the same; the order of entries counts. -/
def same : Json → Json → Bool
  | .null, .null => true
  | .bool left, .bool right => left == right
  | .number left, .number right => left == right
  | .string left, .string right => left == right
  | .array left, .array right => sameItems left right
  | .object left, .object right => sameEntries left right
  | _, _ => false

/-- Two lists of values are the same when their items are, in order. -/
def sameItems : List Json → List Json → Bool
  | [], [] => true
  | left :: leftRest, right :: rightRest => same left right && sameItems leftRest rightRest
  | _, _ => false

/-- Two lists of entries are the same when their names and values are, in order. -/
def sameEntries : List (String × Json) → List (String × Json) → Bool
  | [], [] => true
  | (leftName, left) :: leftRest, (rightName, right) :: rightRest =>
    leftName == rightName && same left right && sameEntries leftRest rightRest
  | _, _ => false

end

instance : BEq Json := ⟨same⟩

end Json

namespace Props

/-- The value under a name, in a bag with repetitions the first one. -/
def value? (bag : Props) (name : String) : Option Json := bag.lookup name

/-- Bind a name in a sorted bag: names before it stay in front, and an entry of the same name
is replaced. -/
def insert (name : String) (value : Json) : Props → Props
  | [] => [(name, value)]
  | (other, held) :: rest =>
    if name < other then (name, value) :: (other, held) :: rest
    else if name = other then (name, value) :: rest
    else (other, held) :: insert name value rest

/-- The sorted bag of the entries of a document; of entries with one name the last counts. -/
def ofEntries (entries : List (String × Json)) : Props :=
  entries.foldl (fun bag entry => bag.insert entry.1 entry.2) []

@[simp] theorem value?_insert_self (name : String) (value : Json) (bag : Props) :
    (bag.insert name value).value? name = some value := by
  induction bag with
  | nil => simp [insert, value?]
  | cons entry rest inductionHypothesis =>
    obtain ⟨other, held⟩ := entry
    simp only [insert]
    split
    · simp [value?]
    · split
      · simp [value?]
      · next different =>
        have missed : (name == other) = false := by simpa using different
        simpa [value?, List.lookup_cons, missed] using inductionHypothesis

/-- Binding a name leaves the values of the other names as they are. -/
theorem value?_insert_of_ne {name other : String} (different : other ≠ name) (value : Json)
    (bag : Props) : (bag.insert name value).value? other = bag.value? other := by
  have missed : (other == name) = false := by simpa using different
  induction bag with
  | nil => simp [insert, value?, List.lookup_cons, missed]
  | cons entry rest inductionHypothesis =>
    obtain ⟨first, held⟩ := entry
    simp only [insert]
    split
    · simp [value?, List.lookup_cons, missed]
    · split
      · next same => simp [value?, List.lookup_cons, ← same, missed]
      · cases found : other == first
        · simpa [value?, List.lookup_cons, found] using inductionHypothesis
        · simp [value?, List.lookup_cons, found]

end Props

namespace Json

mutual

/-- The value with the entries of every object sorted by name and without repetitions. -/
def canonical : Json → Json
  | .array items => .array (canonicalItems items)
  | .object entries => .object (Props.ofEntries (canonicalEntries entries))
  | other => other

/-- The canonical values of the items of an array, in order. -/
def canonicalItems : List Json → List Json
  | [] => []
  | item :: rest => canonical item :: canonicalItems rest

/-- The entries of an object with canonical values, still in document order. -/
def canonicalEntries : List (String × Json) → List (String × Json)
  | [] => []
  | (name, value) :: rest => (name, canonical value) :: canonicalEntries rest

end

end Json

end SolidScene
