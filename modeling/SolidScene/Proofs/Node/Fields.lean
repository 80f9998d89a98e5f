/-
This file shows that the fields of typed nodes read back what they write. The one
thing asked for is that all numbers in a field are finite, since JSON has no others
and a missing number is written as null. What is read from JSON has finite numbers
in turn: a whole number that is too large for a binary one is not read at all.

The laws of a field are a class with an instance for every type of fields, so that a
record of fields gets them from its parts without looking at any. A field that may
be missing is written as null when it is, and it can only be lawful if a value that
is present is never taken for a missing one; the types for which this holds refuse
null. The numbers in a value are listed by a class as well, since it is a whole
payload and not a single field that is asked to be finite in the end.
-/
import Mathlib.Data.List.Basic
import SolidScene.Node.Field
import SolidScene.Proofs.Results

namespace SolidScene

/-! ### The numbers in a value -/

/-- A type with binary numbers in its values. -/
class HasNumbers (α : Type) where
  /-- The numbers, in the order in which they are written. -/
  numbers : α → List Binary64

/-- All binary numbers in a value are finite. -/
def AllFinite {α : Type} [HasNumbers α] (value : α) : Prop :=
  ∀ number ∈ HasNumbers.numbers value, number.isFinite

namespace Json

mutual

/-- The binary numbers in a value, at any depth. Whole numbers are none of them. -/
def numbers : Json → List Binary64
  | .number (.binary value) => [value]
  | .array items => numbersAll items
  | .object entries => numbersOf entries
  | _ => []

/-- The binary numbers in several values. -/
def numbersAll : List Json → List Binary64
  | [] => []
  | item :: rest => item.numbers ++ numbersAll rest

/-- The binary numbers in the values of several entries. -/
def numbersOf : List (String × Json) → List Binary64
  | [] => []
  | (_, value) :: rest => value.numbers ++ numbersOf rest

end

theorem numbersAll_eq_flatMap (items : List Json) : numbersAll items = items.flatMap numbers := by
  induction items with
  | nil => rfl
  | cons item rest inductionHypothesis => rw [numbersAll, inductionHypothesis, List.flatMap_cons]

theorem numbersOf_eq_flatMap (entries : List (String × Json)) :
    numbersOf entries = entries.flatMap fun entry => entry.2.numbers := by
  induction entries with
  | nil => rfl
  | cons entry rest inductionHypothesis =>
    rw [numbersOf, inductionHypothesis, List.flatMap_cons]

end Json

section

instance : HasNumbers Json := ⟨Json.numbers⟩

instance : HasNumbers Binary64 := ⟨fun number => [number]⟩

instance : HasNumbers Bool := ⟨fun _ => []⟩

instance : HasNumbers String := ⟨fun _ => []⟩

instance {α : Type} [Keyword α] : HasNumbers α := ⟨fun _ => []⟩

instance : HasNumbers Props := ⟨Json.numbersOf⟩

instance : HasNumbers Scalar := ⟨fun value => value.number?.toList⟩

instance : HasNumbers Vec2 where
  numbers
    | .uniform value => HasNumbers.numbers value
    | .components x y => HasNumbers.numbers x ++ HasNumbers.numbers y

instance : HasNumbers Vec3 where
  numbers
    | .uniform value => HasNumbers.numbers value
    | .components x y z =>
      HasNumbers.numbers x ++ HasNumbers.numbers y ++ HasNumbers.numbers z

instance {α : Type} [HasNumbers α] : HasNumbers (List α) :=
  ⟨fun values => values.flatMap HasNumbers.numbers⟩

instance {axes : Nat} : HasNumbers (Point axes) := ⟨Vector.toList⟩

instance {α : Type} [HasNumbers α] : HasNumbers (Option α) :=
  ⟨fun value => (value.map HasNumbers.numbers).getD []⟩

end

namespace AllFinite

/-- The numbers of an item are among those of the array. -/
theorem items {items : List Json} (finite : AllFinite (Json.array items)) {item : Json}
    (member : item ∈ items) : AllFinite item := by
  intro number inside
  refine finite number ?_
  show number ∈ Json.numbersAll items
  rw [Json.numbersAll_eq_flatMap]
  exact List.mem_flatMap.mpr ⟨item, member, inside⟩

/-- The numbers of an entry are among those of the object. -/
theorem entries {entries : Props} (finite : AllFinite (Json.object entries))
    {entry : String × Json} (member : entry ∈ entries) : AllFinite entry.2 := by
  intro number inside
  refine finite number ?_
  show number ∈ Json.numbersOf entries
  rw [Json.numbersOf_eq_flatMap]
  exact List.mem_flatMap.mpr ⟨entry, member, inside⟩

theorem cons_iff {α : Type} [HasNumbers α] {value : α} {rest : List α} :
    AllFinite (value :: rest) ↔ AllFinite value ∧ AllFinite rest := by
  simp only [AllFinite, HasNumbers.numbers, List.flatMap_cons, List.forall_mem_append]

theorem some_iff {α : Type} [HasNumbers α] {value : α} :
    AllFinite (some value) ↔ AllFinite value := Iff.rfl

end AllFinite

/-! ### Numbers that are read -/

namespace Binary64

theorem isFinite_zero (negative : Bool) : (zero negative).isFinite := by
  cases negative <;> rfl

/-- A code in range is one of a finite number. -/
theorem isFinite_of_ofCode? {negative : Bool} {code : Nat} {number : Binary64}
    (found : ofCode? negative code = some number) : number.isFinite := by
  unfold ofCode? at found
  split at found
  case isTrue inRange =>
    cases found
    simp only [isFinite, decide_eq_true_eq]
    omega
  case isFalse => cases found

/-- The number nearest to a decimal is finite, if there is one. -/
theorem isFinite_of_ofDecimal? {negative : Bool} {coefficient : Nat} {exponent : Int}
    {number : Binary64} (found : ofDecimal? negative coefficient exponent = some number) :
    number.isFinite := by
  unfold ofDecimal? at found
  split at found
  case h_1 power =>
    split at found
    · cases found
      exact isFinite_zero negative
    · split at found
      · cases found
      · exact isFinite_of_ofCode? found
  case h_2 power =>
    split at found
    · cases found
      exact isFinite_zero negative
    · exact isFinite_of_ofCode? found

/-- A whole number is read as a finite one, if it is not too large to be read. -/
theorem isFinite_of_ofInt? {value : Int} {number : Binary64}
    (found : ofInt? value = some number) : number.isFinite := by
  cases value with
  | ofNat magnitude =>
    rw [ofInt?] at found
    exact isFinite_of_ofDecimal? found
  | negSucc magnitude =>
    rw [ofInt?] at found
    exact isFinite_of_ofDecimal? found

end Binary64

namespace Json

/-- A number of finite JSON is read as a finite one. -/
theorem isFinite_of_toBinary64? {value : Json.Number} (finite : AllFinite (Json.number value))
    {number : Binary64} (found : value.toBinary64? = some number) : number.isFinite := by
  cases value with
  | whole value => exact Binary64.isFinite_of_ofInt? found
  | binary value =>
    cases found
    exact finite number List.mem_cons_self

/-- A finite number is written as itself and not as null. -/
theorem ofBinary64_of_isFinite {number : Binary64} (finite : number.isFinite) :
    ofBinary64 number = .number (.binary number) := by
  rw [ofBinary64, if_pos finite]

end Json

/-! ### Laws of fields -/

/-- A type of fields that read back what they write, as long as the numbers are finite; and what
they read has finite numbers, as long as the JSON has no others. So has a field that is left
out. -/
class LawfulField (α : Type) [Field α] [HasNumbers α] : Prop where
  /-- What was written is read back. -/
  read_write : ∀ {value : α}, AllFinite value → Field.read (Field.write value) = .ok value
  /-- What is read has no numbers but those of the JSON. -/
  allFinite_of_read : ∀ {json : Json} {value : α}, AllFinite json →
    Field.read json = .ok value → AllFinite value
  /-- What stands for a field that is left out has finite numbers. -/
  allFinite_of_absent : ∀ {value : α}, Field.absent? = some value → AllFinite value := by
    intro value left
    cases left

/-- A type of fields that may not be null. -/
class RefusesNull (α : Type) [Field α] : Prop where
  read_null : ∀ value : α, Field.read .null ≠ .ok value

open LawfulField RefusesNull

/-! #### Numbers, truth values and texts -/

instance : LawfulField Binary64 where
  read_write {value} finite := by
    show Field.read (Json.ofBinary64 value) = _
    rw [Json.ofBinary64_of_isFinite (finite value List.mem_cons_self)]
    rfl
  allFinite_of_read {json value} finite found := by
    cases json with
    | number given =>
      simp only [Field.read] at found
      split at found
      case h_1 number converted =>
        cases found
        simpa [AllFinite, HasNumbers.numbers] using Json.isFinite_of_toBinary64? finite converted
      case h_2 => cases found
    | null | bool | string | array | object => cases found

instance : RefusesNull Binary64 := ⟨fun _ refused => nomatch refused⟩

instance : LawfulField Bool where
  read_write _ := rfl
  allFinite_of_read _ _ := List.forall_mem_nil _

instance : LawfulField String where
  read_write _ := rfl
  allFinite_of_read _ _ := List.forall_mem_nil _

instance : RefusesNull String := ⟨fun _ refused => nomatch refused⟩

instance : LawfulField Props where
  read_write _ := rfl
  allFinite_of_read {json entries} finite found := by
    cases json with
    | object given =>
      cases found
      exact finite
    | null | bool | number | string | array => cases found

/-! #### Words -/

/-- A type of words where every value is the one of its own word. -/
class LawfulKeyword (α : Type) [Keyword α] : Prop where
  ofWord?_word : ∀ value : α, Keyword.ofWord? (Keyword.word value) = some value

instance : LawfulKeyword HorizontalAlignment := ⟨by intro value; cases value <;> rfl⟩

instance : LawfulKeyword VerticalAlignment := ⟨by intro value; cases value <;> rfl⟩

instance : LawfulKeyword WritingDirection := ⟨by intro value; cases value <;> rfl⟩

instance : LawfulKeyword Kind := ⟨by intro value; cases value <;> decide⟩

/-- A word is read back as the value that it stands for. -/
theorem Field.readWord_word {α : Type} [Keyword α] [LawfulKeyword α] (value : α) :
    Field.readWord (Keyword.word value) = .ok value := by
  rw [Field.readWord, LawfulKeyword.ofWord?_word]

instance {α : Type} [Keyword α] [LawfulKeyword α] : LawfulField α where
  read_write {value} _ := Field.readWord_word value
  allFinite_of_read _ _ := List.forall_mem_nil _

instance {α : Type} [Keyword α] : RefusesNull α := ⟨fun _ refused => nomatch refused⟩

/-! #### Arguments -/

namespace Field

/-- An argument is read back as the number or the expression that it is. -/
theorem scalar?_writeScalar {value : Scalar} (finite : AllFinite value) :
    scalar? (writeScalar value) = some value := by
  cases value with
  | number number =>
    rw [writeScalar, Json.ofBinary64_of_isFinite (finite number List.mem_cons_self)]
    rfl
  | expression text => rfl

theorem allFinite_of_scalar? {json : Json} {value : Scalar} (finite : AllFinite json)
    (found : scalar? json = some value) : AllFinite value := by
  cases json with
  | number given =>
    obtain ⟨number, converted, rfl⟩ := Option.map_eq_some_iff.mp found
    simpa [AllFinite, HasNumbers.numbers, Scalar.number?] using
      Json.isFinite_of_toBinary64? finite converted
  | string text =>
    cases found
    exact List.forall_mem_nil _
  | null | bool | array | object => cases found

/-! One argument is never written as a list, so it does not come back as one for each axis. -/

/-- A pair that is one argument is read back as one argument. -/
theorem vec2?_writeScalar {value : Scalar} (finite : AllFinite value) :
    vec2? (writeScalar value) = some (.uniform value) := by
  cases value with
  | number number =>
    rw [writeScalar, Json.ofBinary64_of_isFinite (finite number List.mem_cons_self)]
    rfl
  | expression text => rfl

theorem vec3?_writeScalar {value : Scalar} (finite : AllFinite value) :
    vec3? (writeScalar value) = some (.uniform value) := by
  cases value with
  | number number =>
    rw [writeScalar, Json.ofBinary64_of_isFinite (finite number List.mem_cons_self)]
    rfl
  | expression text => rfl

theorem allFinite_of_vec2? {json : Json} {value : Vec2} (finite : AllFinite json)
    (found : vec2? json = some value) : AllFinite value := by
  unfold vec2? at found
  split at found
  case h_1 x y =>
    obtain ⟨first, readX, second, readY, rfl⟩ :
        ∃ first, scalar? x = some first ∧ ∃ second, scalar? y = some second ∧
          Vec2.components first second = value := by
      simpa [Option.bind_eq_some_iff] using found
    exact List.forall_mem_append.mpr
      ⟨allFinite_of_scalar? (finite.items (by simp)) readX,
        allFinite_of_scalar? (finite.items (by simp)) readY⟩
  case h_2 =>
    obtain ⟨argument, read, rfl⟩ := Option.map_eq_some_iff.mp found
    exact allFinite_of_scalar? finite read

theorem allFinite_of_vec3? {json : Json} {value : Vec3} (finite : AllFinite json)
    (found : vec3? json = some value) : AllFinite value := by
  unfold vec3? at found
  split at found
  case h_1 x y z =>
    obtain ⟨first, readX, second, readY, third, readZ, rfl⟩ :
        ∃ first, scalar? x = some first ∧ ∃ second, scalar? y = some second ∧
          ∃ third, scalar? z = some third ∧ Vec3.components first second third = value := by
      simpa [Option.bind_eq_some_iff] using found
    have firstTwo := List.forall_mem_append.mpr
      ⟨allFinite_of_scalar? (finite.items (by simp)) readX,
        allFinite_of_scalar? (finite.items (by simp)) readY⟩
    exact List.forall_mem_append.mpr
      ⟨firstTwo, allFinite_of_scalar? (finite.items (by simp)) readZ⟩
  case h_2 =>
    obtain ⟨argument, read, rfl⟩ := Option.map_eq_some_iff.mp found
    exact allFinite_of_scalar? finite read

end Field

instance : LawfulField Scalar where
  read_write finite := by
    simp only [Field.read, Field.write, Field.scalar?_writeScalar finite]
  allFinite_of_read {json value} finite found := by
    simp only [Field.read] at found
    split at found
    case h_1 read =>
      cases found
      exact Field.allFinite_of_scalar? finite read
    case h_2 => cases found

instance : RefusesNull Scalar := ⟨fun _ refused => nomatch refused⟩

instance : LawfulField Vec2 where
  read_write {value} finite := by
    cases value with
    | uniform value => simp only [Field.read, Field.write, Field.vec2?_writeScalar finite]
    | components x y =>
      have ⟨finiteX, finiteY⟩ := List.forall_mem_append.mp finite
      simp only [Field.read, Field.write, Field.vec2?, Field.scalar?_writeScalar finiteX,
        Field.scalar?_writeScalar finiteY]
      rfl
  allFinite_of_read {json value} finite found := by
    simp only [Field.read] at found
    split at found
    case h_1 read =>
      cases found
      exact Field.allFinite_of_vec2? finite read
    case h_2 => cases found

instance : RefusesNull Vec2 := ⟨fun _ refused => nomatch refused⟩

instance : LawfulField Vec3 where
  read_write {value} finite := by
    cases value with
    | uniform value => simp only [Field.read, Field.write, Field.vec3?_writeScalar finite]
    | components x y z =>
      have ⟨firstTwo, finiteZ⟩ := List.forall_mem_append.mp finite
      have ⟨finiteX, finiteY⟩ := List.forall_mem_append.mp firstTwo
      simp only [Field.read, Field.write, Field.vec3?, Field.scalar?_writeScalar finiteX,
        Field.scalar?_writeScalar finiteY, Field.scalar?_writeScalar finiteZ]
      rfl
  allFinite_of_read {json value} finite found := by
    simp only [Field.read] at found
    split at found
    case h_1 read =>
      cases found
      exact Field.allFinite_of_vec3? finite read
    case h_2 => cases found

instance : RefusesNull Vec3 := ⟨fun _ refused => nomatch refused⟩

/-! #### Lists -/

section

variable {α : Type} [Field α] [HasNumbers α] [LawfulField α]

/-- A list is read back item by item. -/
theorem mapM_read_write {values : List α} (finite : AllFinite values) :
    (values.map Field.write).mapM Field.read = .ok values := by
  induction values with
  | nil => rfl
  | cons value rest inductionHypothesis =>
    have ⟨finiteValue, finiteRest⟩ := AllFinite.cons_iff.mp finite
    rw [List.map_cons, List.mapM_cons, read_write finiteValue, inductionHypothesis finiteRest]
    rfl

theorem allFinite_of_mapM_read {items : List Json} (finite : ∀ item ∈ items, AllFinite item)
    {values : List α} (found : items.mapM Field.read = .ok values) : AllFinite values := by
  induction items generalizing values with
  | nil =>
    cases found
    exact List.forall_mem_nil _
  | cons item rest inductionHypothesis =>
    have ⟨finiteItem, finiteRest⟩ := List.forall_mem_cons.mp finite
    rw [List.mapM_cons] at found
    obtain ⟨value, read, found⟩ := bind_eq_ok_iff.mp found
    obtain ⟨others, readRest, built⟩ := bind_eq_ok_iff.mp found
    cases built
    exact AllFinite.cons_iff.mpr
      ⟨allFinite_of_read finiteItem read, inductionHypothesis finiteRest readRest⟩

instance : LawfulField (List α) where
  read_write := mapM_read_write
  allFinite_of_read {json values} finite found := by
    cases json with
    | array items => exact allFinite_of_mapM_read (fun _ => finite.items) found
    | null | bool | number | string | object => cases found

end

instance {α : Type} [Field α] : RefusesNull (List α) := ⟨fun _ refused => nomatch refused⟩

theorem AllFinite.toList_iff {axes : Nat} {point : Point axes} :
    AllFinite point.toList ↔ AllFinite point := by
  simp [AllFinite, HasNumbers.numbers]

instance {axes : Nat} : LawfulField (Point axes) where
  read_write {point} finite := by
    -- There are no coordinates beyond the axes, which would be too many.
    have length : (point.toList.map Json.ofBinary64).length = axes := by simp
    have read : ((point.toList.map Json.ofBinary64).take axes).mapM
        (Field.read (α := Binary64)) = .ok point.toList := by
      rw [List.take_of_length_le (Nat.le_of_eq length)]
      exact mapM_read_write (AllFinite.toList_iff.mpr finite)
    show Field.readPoint axes (.array (point.toList.map Json.ofBinary64)) = _
    simp only [Field.readPoint]
    refine bind_eq_ok_iff.mpr ⟨point.toList, read, ?_⟩
    simp [pure, Except.pure, Vector.toList]
  allFinite_of_read {json point} finite found := by
    cases json with
    | array items =>
      obtain ⟨coordinates, read, found⟩ := bind_eq_ok_iff.mp found
      split at found
      case isTrue fits =>
        split at found
        case isTrue =>
          cases found
          have finiteItems : ∀ item ∈ items.take axes, AllFinite item := fun item member =>
            finite.items (List.mem_of_mem_take member)
          exact AllFinite.toList_iff.mp (allFinite_of_mapM_read finiteItems read)
        case isFalse => cases found
      case isFalse => cases found
    | null | bool | number | string | object => cases found

/-! #### Fields that may be missing -/

section

variable {α : Type} [Field α]

/-- What is not null is read as a value that is there. -/
theorem read_of_ne_null {json : Json} (present : json ≠ .null) :
    Field.read (α := Option α) json = (Field.read json).map some := by
  cases json with
  | null => contradiction
  | bool | number | string | array | object => rfl

variable [HasNumbers α] [LawfulField α]

/-- A value that is present is never written as null, where null would not be read as one. -/
theorem write_ne_null [RefusesNull α] {value : α} (finite : AllFinite value) :
    Field.write value ≠ .null := by
  intro written
  have back := read_write finite
  rw [written] at back
  exact read_null value back

instance [RefusesNull α] : LawfulField (Option α) where
  read_write {value} finite := by
    cases value with
    | none => rfl
    | some value =>
      have finite := AllFinite.some_iff.mp finite
      show Field.read (Field.write value) = _
      rw [read_of_ne_null (write_ne_null finite), read_write finite]
      rfl
  allFinite_of_read {json value} finite found := by
    -- Null is read as nothing here, whatever the type of what is present makes of it.
    by_cases missing : json = .null
    · rw [missing] at found
      cases found
      exact List.forall_mem_nil _
    · rw [read_of_ne_null missing] at found
      obtain ⟨present, read, rfl⟩ := map_eq_ok_iff.mp found
      exact AllFinite.some_iff.mpr (allFinite_of_read finite read)
  allFinite_of_absent {value} left := by
    cases left
    exact List.forall_mem_nil _

end

end SolidScene
