/-
This file shows that the JSON form of a typed node is read back as the node. A
record is read from every object that has each of its fields once, in any order and
beside other entries, so it is enough to know what the record of each kind writes.
What is read from JSON can be written again, too, since its numbers are finite; an
expression, a missing value and a bag of properties stay what they are.

Records are built from fields by applying a constructor to one after the other, and
the two main relations follow that structure. One says which entries and which
numbers go with a value of a record; it holds of a single field and goes on from a
record to the record with one field more, so that for a kind it is the list of its
fields. The other says that what is read from finite JSON has finite numbers. A
payload is then a kind under a name of its own beside the entries of its record, and
the last condition to check is that no field has that name.
-/
import Mathlib.Data.List.Nodup
import SolidScene.Node.Codec
import SolidScene.Proofs.Node.Fields

namespace SolidScene

open LawfulField

/-! ### The numbers in a payload -/

section

open HasNumbers

instance : HasNumbers Round where
  numbers shape := numbers shape.radius ++ numbers shape.diameter ++ numbers shape.resolution

instance : HasNumbers Cylinder where
  numbers shape :=
    numbers shape.height ++ numbers shape.bottom ++ numbers shape.top ++ numbers shape.resolution

instance : HasNumbers Polyhedron where
  numbers shape := numbers shape.points ++ numbers shape.faces ++ numbers shape.convexity

instance : HasNumbers Polygon where
  numbers shape := numbers shape.points ++ numbers shape.paths ++ numbers shape.convexity

instance : HasNumbers LinearExtrusion where
  numbers extrusion :=
    numbers extrusion.height ++ numbers extrusion.center ++ numbers extrusion.twist ++
      numbers extrusion.scale ++ numbers extrusion.convexity ++ numbers extrusion.slices ++
      numbers extrusion.resolution

instance : HasNumbers RotateExtrusion where
  numbers extrusion :=
    numbers extrusion.angle ++ numbers extrusion.convexity ++ numbers extrusion.resolution

instance : HasNumbers Lettering where
  numbers lettering :=
    numbers lettering.text ++ numbers lettering.size ++ numbers lettering.font ++
      numbers lettering.horizontal ++ numbers lettering.vertical ++ numbers lettering.direction ++
      numbers lettering.language ++ numbers lettering.script ++ numbers lettering.spacing

instance : HasNumbers HeightMap where
  numbers map :=
    numbers map.file ++ numbers map.center ++ numbers map.invert ++ numbers map.convexity

instance : HasNumbers ImportedFile where
  numbers source := numbers source.file ++ numbers source.convexity ++ numbers source.layer

instance : HasNumbers Payload where
  numbers
    | .cube size center => numbers size ++ numbers center
    | .sphere shape => numbers shape
    | .cylinder shape => numbers shape
    | .polyhedron shape => numbers shape
    | .square size center => numbers size ++ numbers center
    | .circle shape => numbers shape
    | .polygon shape => numbers shape
    | .union | .difference | .intersection | .group => []
    | .translate offset => numbers offset
    | .rotate angles axis => numbers angles ++ numbers axis
    | .scale factors => numbers factors
    | .linearExtrude extrusion => numbers extrusion
    | .rotateExtrude extrusion => numbers extrusion
    | .text lettering => numbers lettering
    | .surface map => numbers map
    | .imported source => numbers source
    | .raw code => numbers code
    | .unknown name props => numbers name ++ numbers props

end

/-! ### Entries with one name each -/

namespace Props

/-- The entries have one value under the name, and no other. -/
structure Binds (entries : Props) (name : String) (json : Json) : Prop where
  /-- The value is there. -/
  present : (name, json) ∈ entries
  /-- No other value is. -/
  unique : ∀ other, (name, other) ∈ entries → other = json

/-- Where no name occurs twice, an entry is the only one with its name. -/
theorem binds_of_nodup {entries : Props} (distinct : (entries.map Prod.fst).Nodup)
    {name : String} {json : Json} (present : (name, json) ∈ entries) :
    entries.Binds name json where
  present := present
  unique other member := by
    have same : (name, other) = (name, json) :=
      List.inj_on_of_nodup_map distinct member present rfl
    exact (Prod.mk.inj same).2

theorem mem_of_value? {entries : Props} {name : String} {json : Json}
    (found : entries.value? name = some json) : (name, json) ∈ entries := by
  obtain ⟨front, back, rfl, -⟩ := List.lookup_eq_some_iff.mp found
  simp

/-- The value that a name is bound to is the one that is found. -/
theorem Binds.value? {entries : Props} {name : String} {json : Json}
    (bound : entries.Binds name json) : entries.value? name = some json := by
  cases found : entries.value? name with
  | none =>
    have missed := List.lookup_eq_none_iff.mp found _ bound.present
    simp at missed
  | some other => rw [bound.unique other (mem_of_value? found)]

end Props

/-! ### What a record writes -/

namespace Record

/-- The record is in the entries, whatever else is there. -/
structure Reads {α : Type} (record : Record α) (entries : Props) (value : α) : Prop where
  /-- No entry has a name or a value that the record objects to. -/
  fits : ∀ entry ∈ entries, record.misfit? entry.1 entry.2 = none
  /-- The fields found in the entries make the value. -/
  gathers : record.gather entries = .ok value

/-- A record that is in the entries is read from them. -/
theorem Reads.ofEntries {α : Type} {record : Record α} {entries : Props} {value : α}
    (reads : record.Reads entries value) : record.ofEntries entries = .ok value := by
  have none : (entries.findSome? fun entry => record.misfit? entry.1 entry.2) = none :=
    List.findSome?_eq_none_iff.mpr reads.fits
  rw [Record.ofEntries, none]
  exact reads.gathers

/-- A record of lawful fields has the value of its constructor at the values of the fields, and
the entries and the numbers of the fields in their order. -/
inductive Writes : {α : Type} → Record α → α → Props → List Binary64 → Prop
  /-- A constructor without fields. -/
  | pure {α : Type} (value : α) : Writes (Pure.pure value) value [] []
  /-- A field under a name. -/
  | field {α : Type} [Field α] [HasNumbers α] [LawfulField α] (name : String) (value : α) :
    Writes (field name) value [Payload.entry name value] (HasNumbers.numbers value)
  /-- The fields of one record and then those of another. -/
  | seq {α β : Type} {first : Record (α → β)} {second : Record α} {build : α → β} {value : α}
      {front back : Props} {frontNumbers backNumbers : List Binary64}
      (written : Writes first build front frontNumbers)
      (writtenBehind : Writes second value back backNumbers) :
    Writes (first <*> second) (build value) (front ++ back) (frontNumbers ++ backNumbers)

namespace Writes

/-- A record with one field more writes one entry more, and its numbers. -/
theorem andField {α β : Type} [Field α] [HasNumbers α] [LawfulField α] {first : Record (α → β)}
    {build : α → β} {front : Props} {numbers : List Binary64}
    (written : Writes first build front numbers) (name : String) (value : α) :
    Writes (first <*> Record.field name) (build value) (front ++ [Payload.entry name value])
      (numbers ++ HasNumbers.numbers value) :=
  written.seq (.field name value)

/-- What a record writes it also reads, from all entries that have what it wrote once. -/
theorem reads {α : Type} {record : Record α} {value : α} {written : Props}
    {numbers : List Binary64} (writes : record.Writes value written numbers)
    (finite : ∀ number ∈ numbers, number.isFinite) {entries : Props}
    (bound : ∀ entry ∈ written, entries.Binds entry.1 entry.2) :
    record.Reads entries value := by
  induction writes with
  | pure value => exact ⟨fun _ _ => rfl, rfl⟩
  | field name value =>
    have bound : entries.Binds name (Field.write value) := bound _ List.mem_cons_self
    have back := read_write finite
    constructor
    case fits =>
      -- An entry under another name is passed by, and the one under this name was written here.
      rintro ⟨other, json⟩ member
      by_cases same : other = name
      · subst same
        rw [bound.unique json member]
        simp only [Record.field, if_true, back]
      · exact if_neg same
    case gathers =>
      simp only [Record.field, bound.value?, back]
  | seq written writtenBehind readsFirst readsSecond =>
    have ⟨finiteFirst, finiteSecond⟩ := List.forall_mem_append.mp finite
    have ⟨boundFirst, boundSecond⟩ := List.forall_mem_append.mp bound
    have first := readsFirst finiteFirst boundFirst
    have second := readsSecond finiteSecond boundSecond
    constructor
    case fits =>
      intro entry member
      show (_ <|> _) = none
      rw [first.fits entry member, second.fits entry member]
      rfl
    case gathers =>
      exact bind_eq_ok_iff.mpr ⟨_, first.gathers, bind_eq_ok_iff.mpr ⟨_, second.gathers, rfl⟩⟩

end Writes

end Record

/-! ### What a record reads -/

namespace Record

/-- The value is related to a list of finite numbers. -/
def HasFinite {α : Type} (collects : α → List Binary64 → Prop) (value : α) : Prop :=
  ∃ numbers, (∀ number ∈ numbers, number.isFinite) ∧ collects value numbers

/-- The relation of a value to its numbers. -/
def HasThese {α : Type} [HasNumbers α] (value : α) (numbers : List Binary64) : Prop :=
  HasNumbers.numbers value = numbers

/-- Related to its own numbers a value has finite ones if all of them are finite. -/
theorem hasFinite_hasThese_iff {α : Type} [HasNumbers α] {value : α} :
    HasFinite HasThese value ↔ AllFinite value := by
  constructor
  · rintro ⟨numbers, finite, rfl⟩
    exact finite
  · intro finite
    exact ⟨_, finite, rfl⟩

/-- What a record reads from finite JSON has finite numbers, and in a list the items behind the
record stay finite. The relation to the numbers also makes sense of a constructor whose last
arguments are still to be read: it is related to the numbers of the arguments it has. -/
structure Yields {α : Type} (record : Record α) (collects : α → List Binary64 → Prop) :
    Prop where
  /-- Read from an object. -/
  gathered : ∀ {entries : Props} {value : α}, AllFinite (Json.object entries) →
    record.gather entries = .ok value → HasFinite collects value
  /-- Read from a list, by position. -/
  gatheredItems : ∀ {given : Nat} {expected : Expected} {items rest : List Json} {value : α},
    (∀ item ∈ items, AllFinite item) →
    record.gatherItems given expected items = .ok (value, rest) →
    HasFinite collects value ∧ ∀ item ∈ rest, AllFinite item

namespace Yields

theorem pure {α : Type} {value : α} {collects : α → List Binary64 → Prop}
    (collected : collects value []) : (Pure.pure value : Record α).Yields collects where
  gathered _ found := by
    cases found
    exact ⟨[], List.forall_mem_nil _, collected⟩
  gatheredItems finite found := by
    cases found
    exact ⟨⟨[], List.forall_mem_nil _, collected⟩, finite⟩

theorem field {α : Type} [Field α] [HasNumbers α] [LawfulField α] {name : String} :
    (Record.field (α := α) name).Yields HasThese where
  gathered {entries value} finite found := by
    rw [hasFinite_hasThese_iff]
    simp only [Record.field] at found
    split at found
    case h_1 json bound =>
      exact allFinite_of_read (finite.entries (Props.mem_of_value? bound)) found
    case h_2 =>
      split at found
      case h_1 value absent =>
        cases found
        exact allFinite_of_absent absent
      case h_2 => cases found
  gatheredItems {given expected items rest value} finite found := by
    rw [hasFinite_hasThese_iff]
    cases items with
    | nil => cases found
    | cons json behind =>
      have ⟨finiteFirst, finiteBehind⟩ := List.forall_mem_cons.mp finite
      obtain ⟨read, readFirst, same⟩ := map_eq_ok_iff.mp found
      cases same
      exact ⟨allFinite_of_read finiteFirst readFirst, finiteBehind⟩

/-- Two records are read one after the other, and their numbers are put together. -/
theorem seq {α β : Type} [HasNumbers α] {first : Record (α → β)} {second : Record α}
    {collects : β → List Binary64 → Prop}
    (yieldsFirst : first.Yields fun build front =>
      ∀ value, collects (build value) (front ++ HasNumbers.numbers value))
    (yieldsSecond : second.Yields HasThese) : (first <*> second).Yields collects := by
  have joined {build : α → β} {value : α} (front : HasFinite (fun build front =>
      ∀ value, collects (build value) (front ++ HasNumbers.numbers value)) build)
      (back : HasFinite HasThese value) : HasFinite collects (build value) := by
    obtain ⟨numbers, finite, collected⟩ := front
    exact ⟨_, List.forall_mem_append.mpr ⟨finite, hasFinite_hasThese_iff.mp back⟩,
      collected value⟩
  constructor
  case gathered =>
    intro entries value finite found
    obtain ⟨build, gatheredFirst, found⟩ := bind_eq_ok_iff.mp found
    obtain ⟨argument, gatheredSecond, built⟩ := bind_eq_ok_iff.mp found
    cases built
    exact joined (yieldsFirst.gathered finite gatheredFirst)
      (yieldsSecond.gathered finite gatheredSecond)
  case gatheredItems =>
    intro given expected items rest value finite found
    obtain ⟨⟨build, between⟩, gatheredFirst, found⟩ := bind_eq_ok_iff.mp found
    obtain ⟨⟨argument, behind⟩, gatheredSecond, built⟩ := bind_eq_ok_iff.mp found
    cases built
    have ⟨front, finiteBetween⟩ := yieldsFirst.gatheredItems finite gatheredFirst
    have ⟨back, finiteBehind⟩ := yieldsSecond.gatheredItems finiteBetween gatheredSecond
    exact ⟨joined front back, finiteBehind⟩

end Yields

end Record

/-! ### The records of payloads -/

/-- The word for a kind in the JSON form of payloads is its name. -/
theorem Kind.tag_eq_name (kind : Kind) : kind.tag = kind.name := by
  cases kind <;> decide

namespace Payload

open Record

theorem writes_round (shape : Round) :
    roundRecord.Writes shape
      [entry "r" shape.radius, entry "d" shape.diameter, entry "$fn" shape.resolution]
      (HasNumbers.numbers shape) :=
  ((Writes.pure Round.mk).andField "r" shape.radius
    |>.andField "d" shape.diameter
    |>.andField "$fn" shape.resolution :)

/-- A payload is written by the record of its kind. -/
theorem writes_entries (payload : Payload) :
    (record payload.kind).Writes payload payload.entries (HasNumbers.numbers payload) := by
  -- The lists cannot be taken apart to fit the goal, so each term is read on its own first.
  cases payload with
  | cube size center =>
    exact ((Writes.pure cube).andField "size" size |>.andField "center" center :)
  | sphere shape => exact ((Writes.pure sphere).seq (writes_round shape) :)
  | cylinder shape =>
    exact ((Writes.pure cylinder).seq ((Writes.pure Cylinder.mk).andField "h" shape.height
      |>.andField "r1" shape.bottom
      |>.andField "r2" shape.top
      |>.andField "$fn" shape.resolution) :)
  | polyhedron shape =>
    exact ((Writes.pure polyhedron).seq ((Writes.pure Polyhedron.mk).andField "points" shape.points
      |>.andField "faces" shape.faces
      |>.andField "convexity" shape.convexity) :)
  | square size center =>
    exact ((Writes.pure square).andField "size" size |>.andField "center" center :)
  | circle shape => exact ((Writes.pure circle).seq (writes_round shape) :)
  | polygon shape =>
    exact ((Writes.pure polygon).seq ((Writes.pure Polygon.mk).andField "points" shape.points
      |>.andField "paths" shape.paths
      |>.andField "convexity" shape.convexity) :)
  | union => exact .pure union
  | difference => exact .pure difference
  | intersection => exact .pure intersection
  | translate offset => exact ((Writes.pure translate).andField "v" offset :)
  | rotate angles axis =>
    exact ((Writes.pure rotate).andField "a" angles |>.andField "v" axis :)
  | scale factors => exact ((Writes.pure scale).andField "v" factors :)
  | linearExtrude extrusion =>
    exact ((Writes.pure linearExtrude).seq
      ((Writes.pure LinearExtrusion.mk).andField "height" extrusion.height
        |>.andField "center" extrusion.center
        |>.andField "twist" extrusion.twist
        |>.andField "scale" extrusion.scale
        |>.andField "convexity" extrusion.convexity
        |>.andField "slices" extrusion.slices
        |>.andField "$fn" extrusion.resolution) :)
  | rotateExtrude extrusion =>
    exact ((Writes.pure rotateExtrude).seq
      ((Writes.pure RotateExtrusion.mk).andField "angle" extrusion.angle
        |>.andField "convexity" extrusion.convexity
        |>.andField "$fn" extrusion.resolution) :)
  | text lettering =>
    exact ((Writes.pure text).seq ((Writes.pure Lettering.mk).andField "text" lettering.text
      |>.andField "size" lettering.size
      |>.andField "font" lettering.font
      |>.andField "halign" lettering.horizontal
      |>.andField "valign" lettering.vertical
      |>.andField "direction" lettering.direction
      |>.andField "language" lettering.language
      |>.andField "script" lettering.script
      |>.andField "spacing" lettering.spacing) :)
  | surface map =>
    exact ((Writes.pure surface).seq ((Writes.pure HeightMap.mk).andField "file" map.file
      |>.andField "center" map.center
      |>.andField "invert" map.invert
      |>.andField "convexity" map.convexity) :)
  | imported source =>
    exact ((Writes.pure imported).seq ((Writes.pure ImportedFile.mk).andField "file" source.file
      |>.andField "convexity" source.convexity
      |>.andField "layer" source.layer) :)
  | group => exact .pure group
  | raw code => exact ((Writes.pure raw).andField "code" code :)
  | unknown name props =>
    exact ((Writes.pure unknown).andField "type" name |>.andField "props" props :)

theorem yields_round : roundRecord.Yields HasThese :=
  .seq (.seq (.seq (.pure fun _ _ _ => rfl) .field) .field) .field

/-- The numbers of a payload that was read are those of the fields that were read. -/
theorem yields_record (kind : Kind) : (record kind).Yields HasThese := by
  cases kind with
  | cube | square | rotate | unknown => exact .seq (.seq (.pure fun _ _ => rfl) .field) .field
  | sphere | circle => exact .seq (.pure fun _ => rfl) yields_round
  | cylinder | surface =>
    exact .seq (.pure fun _ => rfl)
      (.seq (.seq (.seq (.seq (.pure fun _ _ _ _ => rfl) .field) .field) .field) .field)
  | polyhedron | polygon | rotateExtrude | imported =>
    exact .seq (.pure fun _ => rfl)
      (.seq (.seq (.seq (.pure fun _ _ _ => rfl) .field) .field) .field)
  | union | difference | intersection | group => exact .pure rfl
  | translate | scale | raw => exact .seq (.pure fun _ => rfl) .field
  | linearExtrude =>
    exact .seq (.pure fun _ => rfl) (.seq (.seq (.seq (.seq (.seq (.seq (.seq
      (.pure fun _ _ _ _ _ _ _ => rfl) .field) .field) .field) .field) .field) .field) .field)
  | text =>
    exact .seq (.pure fun _ => rfl) (.seq (.seq (.seq (.seq (.seq (.seq (.seq (.seq (.seq
      (.pure fun _ _ _ _ _ _ _ _ _ => rfl) .field) .field) .field) .field) .field) .field)
      .field) .field) .field)

/-! ### Payloads -/

/-- The word for a kind is read back as the kind. -/
theorem readKind_tag (kind : Kind) : readKind (.string kind.tag) = .ok kind :=
  Field.readWord_word kind

/-- No field has the name of another, or the one that the kind stands under. -/
theorem nodup_names (payload : Payload) :
    ((("kind", .string payload.kind.tag) :: payload.entries).map Prod.fst).Nodup := by
  cases payload <;> simp [entries, entry]

/-- A payload is read back from its entries and its kind, in any order. -/
theorem ofJson_perm {payload : Payload} (finite : AllFinite payload) {others : Props}
    (shuffled : others.Perm (("kind", .string payload.kind.tag) :: payload.entries)) :
    ofJson (.object others) = .ok payload := by
  have distinct : (others.map Prod.fst).Nodup :=
    (shuffled.map Prod.fst).nodup_iff.mpr payload.nodup_names
  have bound : ∀ entry ∈ (("kind", .string payload.kind.tag) :: payload.entries : Props),
      others.Binds entry.1 entry.2 := fun entry member =>
    Props.binds_of_nodup distinct (shuffled.mem_iff.mpr member)
  have ⟨kindBound, entriesBound⟩ := List.forall_mem_cons.mp bound
  have reads := payload.writes_entries.reads finite entriesBound
  simp only [ofJson, kindBound.value?, readKind_tag]
  exact reads.ofEntries

/-- A payload that was read from finite JSON has finite numbers. -/
theorem allFinite_of_ofJson {json : Json} {payload : Payload} (finite : AllFinite json)
    (found : ofJson json = .ok payload) : AllFinite payload := by
  rw [← hasFinite_hasThese_iff]
  unfold ofJson at found
  split at found
  case h_1 entries =>
    split at found
    case h_1 => cases found
    case h_2 named _ =>
      obtain ⟨kind, -, found⟩ := bind_eq_ok_iff.mp found
      unfold Record.ofEntries at found
      split at found
      case h_1 => cases found
      case h_2 => exact (yields_record kind).gathered finite found
  case h_2 => cases found
  case h_3 named items =>
    obtain ⟨kind, -, found⟩ := bind_eq_ok_iff.mp found
    obtain ⟨⟨value, rest⟩, gathered, found⟩ := bind_eq_ok_iff.mp found
    have finiteItems : ∀ item ∈ items, AllFinite item := fun item member =>
      finite.items (List.mem_cons_of_mem named member)
    have ⟨hasFinite, _⟩ := (yields_record kind).gatheredItems finiteItems gathered
    dsimp only at found
    split at found
    case isTrue =>
      cases found
      exact hasFinite
    case isFalse => cases found
  case h_4 => cases found

/-- A payload with finite numbers is read back from its JSON form, with the entries in any order;
the form is an object that names the kind. Arguments by themselves are read back as well. What
was read from JSON, as an object or as a list, is always read back from the form it is then
written in. -/
theorem payload_reads_back :
    (∀ payload : Payload, AllFinite payload →
      ∃ entries, payload.toJson = .object entries ∧
        Props.value? entries "kind" = some (.string payload.kind.name) ∧
        ∀ others : Props, others.Perm entries → ofJson (.object others) = .ok payload) ∧
    (∀ value : Scalar, AllFinite value → Field.read (Field.write value) = .ok value) ∧
    (∀ value : Vec2, AllFinite value → Field.read (Field.write value) = .ok value) ∧
    (∀ value : Vec3, AllFinite value → Field.read (Field.write value) = .ok value) ∧
    ∀ (json : Json) (payload : Payload), AllFinite json → ofJson json = .ok payload →
      ofJson payload.toJson = .ok payload := by
  refine ⟨?payloads, fun _ => read_write, fun _ => read_write, fun _ => read_write, ?again⟩
  case payloads =>
    intro payload finite
    refine ⟨_, rfl, ?_, fun others shuffled => ofJson_perm finite shuffled⟩
    rw [Props.value?, List.lookup_cons_self, Kind.tag_eq_name]
  case again =>
    intro json payload finite found
    exact ofJson_perm (allFinite_of_ofJson finite found) (List.Perm.refl _)

/-- An extrusion with a number, expressions and missing fields. -/
def tapered : Payload :=
  .linearExtrude
    { height := .expression "$t * 10"
      center := true
      twist := none
      scale := some (.components (.number .one) (.expression "$t"))
      convexity := some .one
      slices := none
      resolution := none }

/-- A rotation as a list: the name of its kind, and the fields in order. -/
def turned : Json :=
  .array [.string "rotate", .array [.number (.whole 0), .number (.binary .one), .string "$t"],
    .null]

theorem payload_reads_back_tapered_and_turned :
    (AllFinite tapered ∧ ∃ entries, tapered.toJson = .object entries ∧
      Props.value? entries "kind" = some (.string "linear_extrude") ∧
      ∀ others : Props, others.Perm entries → ofJson (.object others) = .ok tapered) ∧
    AllFinite turned ∧ ∃ payload, ofJson turned = .ok payload ∧
      ofJson payload.toJson = .ok payload := by
  obtain ⟨payloads, -, -, -, again⟩ := payload_reads_back
  have finiteTapered : AllFinite tapered := by
    unfold AllFinite
    decide
  have finiteTurned : AllFinite turned := by
    unfold AllFinite
    decide
  exact ⟨⟨finiteTapered, payloads tapered finiteTapered⟩, finiteTurned, _, rfl,
    again turned _ finiteTurned rfl⟩

end Payload

end SolidScene
