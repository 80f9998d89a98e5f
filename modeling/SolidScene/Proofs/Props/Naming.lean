/-
This file says what counts in a bag. Every field of a payload has a list of names,
no two of which belong to one kind twice, and of the values under these names only
the first one that is not null is read. The reduced bag of a kind holds nothing but
these values, each under the first name of its field. It changes a payload as the
whole bag does, and a field that it does not name stays as it is.

To speak of the fields of any kind at once, a payload is turned into a list of data,
each of them the names of a field with its value; of a known kind a payload is
nothing but this list. Two statements about a shape and a bag do all the work: the
shape changes alike under two bags that agree on its fields, and a field that the
bag misses keeps its value. The reduced bag agrees with the whole one, because no
name stands for two fields of a kind, so that what is written under the first name
of a field is read for no other.
-/
import Mathlib.Data.List.Forall2
import Mathlib.Data.List.Induction
import Mathlib.Data.List.Pairwise
import SolidScene.Proofs.Node.RoundTrip
import SolidScene.Proofs.Props.Setting

namespace SolidScene

/-! ### The fields of a payload -/

/-- A field of a payload: the names under which a bag may hold it, and its value. -/
structure Datum where
  /-- The names, in the order in which they are looked up. -/
  names : List String
  /-- The type of the value, which differs from field to field. -/
  {Value : Type}
  /-- What the payload holds in the field. -/
  value : Value

namespace Datum

/-- The name under which a reduced bag holds the field. -/
def name (datum : Datum) : String := datum.names.headD ""

/-- A field before and after a change: its names stay, and if it is not touched its value does. -/
structure KeptIf (untouched : Datum → Prop) (old new : Datum) : Prop where
  names : new.names = old.names
  value : untouched old → new = old

end Datum

/-- The fields of a sphere or a circle, with the names that a bag may hold them under. -/
def Round.data (shape : Round) : List Datum :=
  [⟨Names.radius, shape.radius⟩, ⟨Names.diameter, shape.diameter⟩,
    ⟨Names.resolution, shape.resolution⟩]

/-- The fields of a cylinder. The names of a plain radius stand for the one at the bottom. -/
def Cylinder.data (shape : Cylinder) : List Datum :=
  [⟨Names.height, shape.height⟩, ⟨Names.bottom, shape.bottom⟩, ⟨Names.top, shape.top⟩,
    ⟨Names.resolution, shape.resolution⟩]

/-- The fields of a polyhedron. -/
def Polyhedron.data (shape : Polyhedron) : List Datum :=
  [⟨["points"], shape.points⟩, ⟨["faces"], shape.faces⟩, ⟨Names.convexity, shape.convexity⟩]

/-- The fields of a polygon. -/
def Polygon.data (shape : Polygon) : List Datum :=
  [⟨["points"], shape.points⟩, ⟨["paths"], shape.paths⟩, ⟨Names.convexity, shape.convexity⟩]

/-- The fields of a linear extrusion. -/
def LinearExtrusion.data (extrusion : LinearExtrusion) : List Datum :=
  [⟨Names.height, extrusion.height⟩, ⟨["center"], extrusion.center⟩,
    ⟨["twist"], extrusion.twist⟩, ⟨["scale"], extrusion.scale⟩,
    ⟨Names.convexity, extrusion.convexity⟩, ⟨["slices"], extrusion.slices⟩,
    ⟨Names.resolution, extrusion.resolution⟩]

/-- The fields of a rotational extrusion. -/
def RotateExtrusion.data (extrusion : RotateExtrusion) : List Datum :=
  [⟨["angle"], extrusion.angle⟩, ⟨Names.convexity, extrusion.convexity⟩,
    ⟨Names.resolution, extrusion.resolution⟩]

/-- The fields of a text; the three alignments are keywords. -/
def Lettering.data (lettering : Lettering) : List Datum :=
  [⟨Names.text, lettering.text⟩, ⟨["size"], lettering.size⟩, ⟨["font"], lettering.font⟩,
    ⟨["halign"], lettering.horizontal⟩, ⟨["valign"], lettering.vertical⟩,
    ⟨["direction"], lettering.direction⟩, ⟨["language"], lettering.language⟩,
    ⟨["script"], lettering.script⟩, ⟨["spacing"], lettering.spacing⟩]

/-- The fields of a surface. -/
def HeightMap.data (map : HeightMap) : List Datum :=
  [⟨Names.file, map.file⟩, ⟨["center"], map.center⟩, ⟨["invert"], map.invert⟩,
    ⟨Names.convexity, map.convexity⟩]

/-- The fields of an imported file. -/
def ImportedFile.data (source : ImportedFile) : List Datum :=
  [⟨Names.file, source.file⟩, ⟨Names.convexity, source.convexity⟩, ⟨["layer"], source.layer⟩]

/-- The fields of a payload. An unknown node has a bag of its own, and no fields. -/
def Payload.data : Payload → List Datum
  | cube size center => [⟨["size"], size⟩, ⟨["center"], center⟩]
  | sphere shape => shape.data
  | cylinder shape => shape.data
  | polyhedron shape => shape.data
  | square size center => [⟨["size"], size⟩, ⟨["center"], center⟩]
  | circle shape => shape.data
  | polygon shape => shape.data
  | translate offset => [⟨Names.vector, offset⟩]
  | rotate angles axis => [⟨Names.angles, angles⟩, ⟨Names.vector, axis⟩]
  | scale factors => [⟨Names.vector, factors⟩]
  | linearExtrude extrusion => extrusion.data
  | rotateExtrude extrusion => extrusion.data
  | text lettering => lettering.data
  | surface map => map.data
  | imported source => source.data
  | raw code => [⟨["code"], code⟩]
  | union | difference | intersection | group | unknown _ _ => []

/-! ### Nothing but fields -/

attribute [ext] Round Cylinder Polyhedron Polygon LinearExtrusion RotateExtrusion Lettering
  HeightMap ImportedFile

/-- A payload of a known kind is nothing but its fields. -/
theorem Payload.eq_of_data_eq {left right : Payload} (known : left.kind ≠ .unknown)
    (kinds : left.kind = right.kind) (same : left.data = right.data) : left = right := by
  cases left <;> cases right <;> cases kinds
  case unknown => exact absurd rfl known
  case union | difference | intersection | group => rfl
  all_goals
    simpa [data, Round.data, Cylinder.data, Polyhedron.data, Polygon.data, LinearExtrusion.data,
      RotateExtrusion.data, Lettering.data, HeightMap.data, ImportedFile.data, Round.ext_iff,
      Cylinder.ext_iff, Polyhedron.ext_iff, Polygon.ext_iff, LinearExtrusion.ext_iff,
      RotateExtrusion.ext_iff, Lettering.ext_iff, HeightMap.ext_iff,
      ImportedFile.ext_iff] using same

/-! ### The names of a kind -/

/-- The names of the fields of a kind, field by field. -/
def Kind.fields (kind : Kind) : List (List String) := (Payload.default kind).data.map Datum.names

/-- The names of the fields are a matter of the kind. -/
theorem Payload.names_data (payload : Payload) :
    payload.data.map Datum.names = payload.kind.fields := by
  cases payload <;> rfl

theorem Payload.names_mem_fields {payload : Payload} {datum : Datum} (mem : datum ∈ payload.data) :
    datum.names ∈ payload.kind.fields :=
  payload.names_data ▸ List.mem_map_of_mem mem

namespace Kind

theorem ne_nil_of_mem_fields {kind : Kind} : ∀ names ∈ kind.fields, names ≠ [] := by
  cases kind <;> decide

/-- No name occurs twice among the fields of a kind. -/
theorem nodup_flatten_fields (kind : Kind) : kind.fields.flatten.Nodup := by
  cases kind <;> decide

theorem head_mem_of_mem_fields {kind : Kind} {names : List String} (field : names ∈ kind.fields) :
    names.headD "" ∈ names := by
  obtain ⟨name, others, rfl⟩ := List.exists_cons_of_ne_nil (ne_nil_of_mem_fields names field)
  exact List.mem_cons_self

/-- No name stands for two fields of a kind. -/
theorem eq_of_mem_fields {kind : Kind} {names others : List String} (field : names ∈ kind.fields)
    (other : others ∈ kind.fields) {name : String} (mem : name ∈ names) (also : name ∈ others) :
    names = others := by
  by_contra different
  have : Std.Symm (@List.Disjoint String) := ⟨fun _ _ => List.disjoint_symm⟩
  have apart := (List.nodup_flatten.mp kind.nodup_flatten_fields).2.forall field other different
  exact apart mem also

end Kind

/-! ### The reduced bag -/

namespace Props

/-- Of several entries of one name the last one counts. -/
theorem value?_ofEntries (entries : List (String × Json)) (name : String) :
    (ofEntries entries).value? name = value? entries.reverse name := by
  induction entries using List.reverseRecOn with
  | nil => rfl
  | append_singleton front entry inductionHypothesis =>
    have last : ofEntries (front ++ [entry]) = (ofEntries front).insert entry.1 entry.2 := by
      rw [ofEntries, List.foldl_append]
      rfl
    rw [last, List.reverse_append, List.reverse_singleton, List.singleton_append]
    by_cases same : name = entry.1
    · rw [same, value?_insert_self, value?, List.lookup_cons_self]
    · have missed : (name == entry.1) = false := by simpa using same
      rw [value?_insert_of_ne same, inductionHypothesis, value?, value?, List.lookup_cons, missed]

/-- The entries of the reduced bag. -/
def counting (kind : Kind) (bag : Props) : List (String × Json) :=
  kind.fields.filterMap fun names => (bag.first? names).map (names.headD "", ·)

/-- The bag that holds what counts for a kind: for each of its fields the first value under a name
of the field that is not null, if there is one, bound to the first of the names. -/
def reduced (kind : Kind) (bag : Props) : Props := ofEntries (counting kind bag)

section

variable {kind : Kind} {bag : Props} {names : List String}

theorem mem_counting {name : String} {json : Json} :
    (name, json) ∈ counting kind bag ↔
      ∃ names ∈ kind.fields, bag.first? names = some json ∧ names.headD "" = name := by
  simp only [counting, List.mem_filterMap, Option.map_eq_some_iff, Prod.mk.injEq,
    exists_eq_right_right]

/-- What is listed for a field is the value that the field is read from. -/
theorem first?_of_mem_counting (field : names ∈ kind.fields) {json : Json}
    (mem : (names.headD "", json) ∈ counting kind bag) : bag.first? names = some json := by
  obtain ⟨others, also, found, same⟩ := mem_counting.mp mem
  obtain rfl : others = names :=
    Kind.eq_of_mem_fields also field (Kind.head_mem_of_mem_fields also)
      (same ▸ Kind.head_mem_of_mem_fields field)
  exact found

theorem mem_counting_of_value?_reduced {name : String} {json : Json}
    (found : (reduced kind bag).value? name = some json) : (name, json) ∈ counting kind bag := by
  rw [reduced, value?_ofEntries] at found
  exact List.mem_reverse.mp (mem_of_value? found)

/-- The first name of a field has the value that counts. -/
theorem value?_reduced (field : names ∈ kind.fields) :
    (reduced kind bag).value? (names.headD "") = bag.first? names := by
  cases first : bag.first? names with
  | none =>
    by_contra present
    obtain ⟨json, found⟩ := Option.ne_none_iff_exists'.mp present
    have other := first?_of_mem_counting field (mem_counting_of_value?_reduced found)
    rw [first] at other
    cases other
  | some json =>
    rw [reduced, value?_ofEntries]
    refine Binds.value? ⟨List.mem_reverse.mpr (mem_counting.mpr ⟨names, field, first, rfl⟩), ?_⟩
    intro value mem
    have other := first?_of_mem_counting field (List.mem_reverse.mp mem)
    exact Option.some.inj (other.symm.trans first)

/-- The other names of a field are left out. -/
theorem value?_reduced_of_mem_tail {name : String} {others : List String}
    (field : name :: others ∈ kind.fields) {other : String} (mem : other ∈ others) :
    (reduced kind bag).value? other = none := by
  by_contra present
  obtain ⟨json, found⟩ := Option.ne_none_iff_exists'.mp present
  obtain ⟨names, also, -, rfl⟩ := mem_counting.mp (mem_counting_of_value?_reduced found)
  obtain rfl := Kind.eq_of_mem_fields also field (Kind.head_mem_of_mem_fields also)
    (List.mem_cons_of_mem _ mem)
  exact (List.nodup_cons.mp ((List.nodup_flatten.mp kind.nodup_flatten_fields).1 _ field)).1 mem

/-- A field reads the same value from the reduced bag as from the whole one. -/
theorem first?_reduced (field : names ∈ kind.fields) :
    (reduced kind bag).first? names = bag.first? names := by
  obtain ⟨name, others, rfl⟩ := List.exists_cons_of_ne_nil (Kind.ne_nil_of_mem_fields names field)
  have rest : (reduced kind bag).first? others = none := by
    refine List.findSome?_eq_none_iff.mpr fun other mem => ?_
    rw [value?_reduced_of_mem_tail field mem]
  have head : (reduced kind bag).value? name = bag.first? (name :: others) := value?_reduced field
  rw [first?, List.findSome?_cons, head]
  cases found : bag.first? (name :: others) with
  | none => exact rest
  | some json =>
    cases json
    case null => exact absurd rfl (ne_null_of_first? found)
    all_goals rfl

end

end Props

/-! ### What a change depends on -/

/-- Two bags have the same to say about fields. -/
def Props.AgreeOn (bag other : Props) (data : List Datum) : Prop :=
  ∀ datum ∈ data, bag.first? datum.names = other.first? datum.names

section

open Props

variable {bag other : Props}

theorem Round.update_congr {shape : Round} (agree : bag.AgreeOn other shape.data) :
    shape.update bag = shape.update other := by
  simp only [AgreeOn, data, List.forall_mem_cons] at agree
  simp only [update, setScalar?, setResolution, setNumber?, set?, Props.set, agree]

theorem Cylinder.update_congr {shape : Cylinder} (agree : bag.AgreeOn other shape.data) :
    shape.update bag = shape.update other := by
  simp only [AgreeOn, data, List.forall_mem_cons] at agree
  simp only [update, setScalar, setResolution, setNumber?, set?, Props.set, agree]

theorem Polyhedron.update_congr {shape : Polyhedron} (agree : bag.AgreeOn other shape.data) :
    shape.update bag = shape.update other := by
  simp only [AgreeOn, data, List.forall_mem_cons] at agree
  simp only [update, setConvexity, setNumber?, set?, Props.set, agree]

theorem Polygon.update_congr {shape : Polygon} (agree : bag.AgreeOn other shape.data) :
    shape.update bag = shape.update other := by
  simp only [AgreeOn, data, List.forall_mem_cons] at agree
  simp only [update, setConvexity, setNumber?, set?, Props.set, agree]

theorem LinearExtrusion.update_congr {extrusion : LinearExtrusion}
    (agree : bag.AgreeOn other extrusion.data) :
    extrusion.update bag = extrusion.update other := by
  simp only [AgreeOn, data, List.forall_mem_cons] at agree
  simp only [update, setScalar, setScalar?, setConvexity, setResolution, setNumber?, set?,
    setFlag_eq_set, Props.set, agree]

theorem RotateExtrusion.update_congr {extrusion : RotateExtrusion}
    (agree : bag.AgreeOn other extrusion.data) :
    extrusion.update bag = extrusion.update other := by
  simp only [AgreeOn, data, List.forall_mem_cons] at agree
  simp only [update, setScalar?, setConvexity, setResolution, setNumber?, set?, Props.set, agree]

theorem Lettering.update_congr {lettering : Lettering} (agree : bag.AgreeOn other lettering.data) :
    lettering.update bag = lettering.update other := by
  simp only [AgreeOn, data, List.forall_mem_cons] at agree
  simp only [update, setText?, setNumber?, set?, setWord?_eq_set, Props.set, agree]

theorem HeightMap.update_congr {map : HeightMap} (agree : bag.AgreeOn other map.data) :
    map.update bag = map.update other := by
  simp only [AgreeOn, data, List.forall_mem_cons] at agree
  simp only [update, setConvexity, setNumber?, set?, setFlag_eq_set, Props.set, agree]

theorem ImportedFile.update_congr {source : ImportedFile} (agree : bag.AgreeOn other source.data) :
    source.update bag = source.update other := by
  simp only [AgreeOn, data, List.forall_mem_cons] at agree
  simp only [update, setText?, setConvexity, setNumber?, set?, Props.set, agree]

/-- Only the bag of an unknown node is more than its fields. -/
theorem Payload.update_congr {payload : Payload} (known : payload.kind ≠ .unknown)
    (agree : bag.AgreeOn other payload.data) : payload.update bag = payload.update other := by
  cases payload
  case unknown => exact absurd rfl known
  case sphere | circle => exact congrArg _ (Round.update_congr agree)
  case cylinder => exact congrArg _ (Cylinder.update_congr agree)
  case polyhedron => exact congrArg _ (Polyhedron.update_congr agree)
  case polygon => exact congrArg _ (Polygon.update_congr agree)
  case linearExtrude => exact congrArg _ (LinearExtrusion.update_congr agree)
  case rotateExtrude => exact congrArg _ (RotateExtrusion.update_congr agree)
  case text => exact congrArg _ (Lettering.update_congr agree)
  case surface => exact congrArg _ (HeightMap.update_congr agree)
  case imported => exact congrArg _ (ImportedFile.update_congr agree)
  all_goals
    simp only [AgreeOn, data, List.forall_mem_cons] at agree
    simp only [update, set?, setFlag_eq_set, Props.set, agree]

end

/-! ### What a change keeps -/

/-- A bag has nothing to say about a field. -/
def Props.Misses (bag : Props) (datum : Datum) : Prop := bag.first? datum.names = none

/-- A field that the bag has nothing to say about is not changed. -/
theorem Datum.keptIf_set {Value : Type} (bag : Props) (names : List String) (read : Json → Value)
    (current : Value) :
    KeptIf bag.Misses ⟨names, current⟩ ⟨names, bag.set names read current⟩ :=
  ⟨rfl, fun missing => by rw [Props.set_of_none missing]⟩

section

open Props

variable {bag : Props}

theorem Round.keptIf_update (shape : Round) :
    List.Forall₂ (Datum.KeptIf bag.Misses) shape.data (shape.update bag).data := by
  simp only [data, update, setScalar?, setResolution, setNumber?, set?, List.forall₂_cons,
    Datum.keptIf_set, List.Forall₂.nil, and_self]

theorem Cylinder.keptIf_update (shape : Cylinder) :
    List.Forall₂ (Datum.KeptIf bag.Misses) shape.data (shape.update bag).data := by
  simp only [data, update, setScalar, setResolution, setNumber?, set?, List.forall₂_cons,
    Datum.keptIf_set, List.Forall₂.nil, and_self]

theorem Polyhedron.keptIf_update (shape : Polyhedron) :
    List.Forall₂ (Datum.KeptIf bag.Misses) shape.data (shape.update bag).data := by
  simp only [data, update, setConvexity, setNumber?, set?, List.forall₂_cons, Datum.keptIf_set,
    List.Forall₂.nil, and_self]

theorem Polygon.keptIf_update (shape : Polygon) :
    List.Forall₂ (Datum.KeptIf bag.Misses) shape.data (shape.update bag).data := by
  simp only [data, update, setConvexity, setNumber?, set?, List.forall₂_cons, Datum.keptIf_set,
    List.Forall₂.nil, and_self]

theorem LinearExtrusion.keptIf_update (extrusion : LinearExtrusion) :
    List.Forall₂ (Datum.KeptIf bag.Misses) extrusion.data (extrusion.update bag).data := by
  simp only [data, update, setScalar, setScalar?, setConvexity, setResolution, setNumber?, set?,
    setFlag_eq_set, List.forall₂_cons, Datum.keptIf_set, List.Forall₂.nil, and_self]

theorem RotateExtrusion.keptIf_update (extrusion : RotateExtrusion) :
    List.Forall₂ (Datum.KeptIf bag.Misses) extrusion.data (extrusion.update bag).data := by
  simp only [data, update, setScalar?, setConvexity, setResolution, setNumber?, set?,
    List.forall₂_cons, Datum.keptIf_set, List.Forall₂.nil, and_self]

theorem Lettering.keptIf_update (lettering : Lettering) :
    List.Forall₂ (Datum.KeptIf bag.Misses) lettering.data (lettering.update bag).data := by
  simp only [data, update, setText?, setNumber?, set?, setWord?_eq_set, List.forall₂_cons,
    Datum.keptIf_set, List.Forall₂.nil, and_self]

theorem HeightMap.keptIf_update (map : HeightMap) :
    List.Forall₂ (Datum.KeptIf bag.Misses) map.data (map.update bag).data := by
  simp only [data, update, setConvexity, setNumber?, set?, setFlag_eq_set, List.forall₂_cons,
    Datum.keptIf_set, List.Forall₂.nil, and_self]

theorem ImportedFile.keptIf_update (source : ImportedFile) :
    List.Forall₂ (Datum.KeptIf bag.Misses) source.data (source.update bag).data := by
  simp only [data, update, setText?, setConvexity, setNumber?, set?, List.forall₂_cons,
    Datum.keptIf_set, List.Forall₂.nil, and_self]

/-- An update changes fields, not their names, and none that the bag misses. -/
theorem Payload.keptIf_update (payload : Payload) :
    List.Forall₂ (Datum.KeptIf bag.Misses) payload.data (payload.update bag).data := by
  cases payload
  case sphere shape | circle shape => exact shape.keptIf_update
  case cylinder shape => exact shape.keptIf_update
  case polyhedron shape => exact shape.keptIf_update
  case polygon shape => exact shape.keptIf_update
  case linearExtrude extrusion => exact extrusion.keptIf_update
  case rotateExtrude extrusion => exact extrusion.keptIf_update
  case text lettering => exact lettering.keptIf_update
  case surface map => exact map.keptIf_update
  case imported source => exact source.keptIf_update
  all_goals
    simp only [data, update, set?, setFlag_eq_set, List.forall₂_cons, Datum.keptIf_set,
      List.Forall₂.nil, and_self]

end

/-! ### What counts for a payload -/

namespace Payload

variable {bag : Props}

/-- A bag and its reduced bag have the same to say about the fields of the kind. -/
theorem agreeOn_reduced (bag : Props) (payload : Payload) :
    bag.AgreeOn (bag.reduced payload.kind) payload.data := fun _ mem =>
  (Props.first?_reduced (names_mem_fields mem)).symm

/-- The reduced bag changes a payload as the whole bag does. -/
theorem update_reduced (bag : Props) {payload : Payload} (known : payload.kind ≠ .unknown) :
    payload.update (bag.reduced payload.kind) = payload.update bag :=
  (update_congr known (agreeOn_reduced bag payload)).symm

/-- A field that has no entry in the reduced bag is not touched. -/
theorem keptIf_reduced (bag : Props) (payload : Payload) :
    List.Forall₂ (Datum.KeptIf fun datum => (bag.reduced payload.kind).value? datum.name = none)
      payload.data (payload.update bag).data := by
  refine ((List.forall₂_and_left _ _).mpr ⟨fun _ => names_mem_fields, payload.keptIf_update⟩).imp ?_
  rintro old new ⟨field, kept⟩
  refine ⟨kept.names, fun absent => kept.value ?_⟩
  rw [Props.Misses, ← Props.value?_reduced field]
  exact absent

/-- A bag without a value under any name of a known kind changes nothing. -/
theorem update_eq_self {payload : Payload} (known : payload.kind ≠ .unknown)
    (nothing : bag.reduced payload.kind = []) : payload.update bag = payload := by
  have kept := keptIf_reduced bag payload
  rw [nothing] at kept
  have same := kept.imp fun _ _ kept => (kept.value rfl).symm
  rw [List.forall₂_eq_eq_eq] at same
  exact (eq_of_data_eq known (kind_update bag payload).symm same).symm

/-- The top of a new cylinder is read from the reduced bag like its other fields. -/
theorem settle_reduced (bag : Props) (payload : Payload) :
    payload.settle (bag.reduced payload.kind) = payload.settle bag := by
  by_cases round : payload.kind = .cylinder
  · cases payload <;> cases round
    have field : Names.top ∈ Kind.fields .cylinder := by decide
    simp only [settle, Cylinder.settle, Props.setScalar, Props.set, kind,
      Props.first?_reduced field]
  · rw [settle_of_kind_ne round, settle_of_kind_ne round]

/-- A node is created alike from the reduced bag. -/
theorem create_reduced (bag : Props) {name : String} {kind : Kind}
    (known : Kind.ofName? name = some kind) :
    create name (bag.reduced kind) = create name bag := by
  have fresh : (default kind).kind ≠ .unknown := by
    rw [kind_default]
    exact Kind.ne_unknown_of_ofName? known
  have update := update_reduced bag fresh
  have settle := settle_reduced bag ((default kind).update bag)
  rw [kind_default] at update
  rw [kind_update, kind_default] at settle
  rw [create_of_known known, create_of_known known, update, settle]

/-- Of the values in a bag, those in the reduced bag are all that counts for a payload of a known
kind: it changes to what the reduced bag makes of it, its kind and the fields without an entry in
the reduced bag stay as they are, and a new payload is what the reduced bag makes of it, too. An
unknown node keeps its name and takes the whole bag. -/
theorem only_first_values_count (bag : Props) :
    (∀ payload : Payload, payload.kind ≠ .unknown →
      payload.update bag = payload.update (bag.reduced payload.kind) ∧
        (payload.update bag).kind = payload.kind ∧
        List.Forall₂
          (Datum.KeptIf fun datum => (bag.reduced payload.kind).value? datum.name = none)
          payload.data (payload.update bag).data) ∧
      (∀ (name : String) (kind : Kind), Kind.ofName? name = some kind →
        create name bag = create name (bag.reduced kind) ∧ (create name bag).kind = kind) ∧
      ∀ (name : String) (held : Props), (unknown name held).update bag = unknown name bag := by
  refine ⟨fun payload known => ?_, fun name kind known => ?_, fun _ _ => rfl⟩
  · exact ⟨(update_reduced bag known).symm, kind_update bag payload, keptIf_reduced bag payload⟩
  · refine ⟨(create_reduced bag known).symm, ?_⟩
    rw [create_of_known known, kind_settle, kind_update, kind_default]

/-- A null is passed over for the next name of the radius, and names of no field are left out. -/
theorem only_first_values_count_sphere :
    let bag : Props :=
      [("diameter", .string "w"), ("h", .bool true), ("r", .null), ("radius", .string "u")]
    let first : Props := [("d", .string "w"), ("r", .string "u")]
    let shape : Round := ⟨none, none, some (.ofSmall 8)⟩
    bag.reduced .sphere = first ∧ (sphere shape).update bag = (sphere shape).update first ∧
      create "sphere" bag = create "sphere" first := by
  intro bag first shape
  have reduced : bag.reduced .sphere = first := by rfl
  obtain ⟨changed, created, -⟩ := only_first_values_count bag
  refine ⟨reduced, ?_, ?_⟩
  · rw [← reduced]
    exact (changed (sphere shape) (by decide)).1
  · rw [← reduced]
    exact (created "sphere" .sphere (by decide)).1

end Payload

end SolidScene
