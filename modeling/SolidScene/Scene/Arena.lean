/-
This file stores items under handles that are never confused. An item lives in a
slot; the slot has a version that changes whenever an item moves in or out, and a
handle is the number of a slot with the version it had when the item moved in. A
handle to an item that is gone finds nothing, also after the slot was taken again.
Slots that became vacant are taken again before new ones are added, the one that
became vacant last before the others.

An arena carries the proofs that its vacancies are what they should be: each of them
is a vacant slot other than slot zero, none is listed twice, and slot zero stays
vacant, so that the null handle never finds anything. Every change proves these
facts again for the arena that it makes. What is found after a change is said at the
end by one lemma for the handle changed and one for all others; except for the
versions, which never go back, scenes need to know nothing else about slots.
-/

namespace SolidScene

/-- A reference to an item in an arena. -/
structure Handle where
  /-- The number of the slot, from one on. -/
  index : Nat
  /-- The version of the slot while the item is in it. -/
  version : Nat
deriving DecidableEq, Inhabited

/-- The handle that never refers to an item: no item is in slot zero. -/
def Handle.null : Handle := ⟨0, 0⟩

/-- The text of a handle in a message. -/
def Handle.text (handle : Handle) : String :=
  if handle.index = 0 then "NodeId(null)"
  else "NodeId(" ++ toString handle.index ++ "v" ++ toString handle.version ++ ")"

/-- A place for an item. -/
inductive Slot (α : Type) where
  /-- Nothing is in the slot. The version is the one under which the last item left. -/
  | vacant (version : Nat)
  /-- An item that moved in under the version. -/
  | occupied (version : Nat) (item : α)
deriving Inhabited

namespace Slot

variable {α : Type}

/-- How often an item has moved in or out. -/
def version : Slot α → Nat
  | vacant version => version
  | occupied version _ => version

/-- The item of a slot, if it has the given version. -/
def item? (wanted : Nat) : Slot α → Option α
  | vacant _ => none
  | occupied version item => if version = wanted then some item else none

/-- Whether an item is in the slot. -/
def isOccupied : Slot α → Bool
  | vacant _ => false
  | occupied .. => true

end Slot

/-- Whether the slot with a number is there and vacant. -/
def IsVacantAt {α : Type} (slots : Array (Slot α)) (index : Nat) : Prop :=
  ∃ version, slots[index]? = some (.vacant version)

/-- A store of items under handles. -/
structure Arena (α : Type) where
  /-- The slots by number. Slot zero stays vacant, so that the null handle is never live. -/
  slots : Array (Slot α)
  /-- The vacant slots that are taken again, the next one first. -/
  vacancies : List Nat
  /-- The null handle leads to no item. -/
  slotZero_vacant : IsVacantAt slots 0
  /-- A slot that is taken again holds no item, and it is not slot zero. -/
  vacancies_vacant : ∀ index ∈ vacancies, 0 < index ∧ IsVacantAt slots index
  /-- No slot is taken twice. -/
  vacancies_nodup : vacancies.Nodup

namespace Arena

variable {α : Type}

/-- The arena without items. Its only slot is slot zero, which no item gets. -/
def empty : Arena α where
  slots := #[.vacant 0]
  vacancies := []
  slotZero_vacant := ⟨0, rfl⟩
  vacancies_vacant := by simp
  vacancies_nodup := by simp

instance : Inhabited (Arena α) := ⟨empty⟩

/-! ### Looking up -/

/-- The item of a handle, if the handle is live. -/
def get? (arena : Arena α) (handle : Handle) : Option α :=
  (arena.slots[handle.index]?).bind (Slot.item? handle.version)

/-- Whether a handle refers to an item. -/
def contains (arena : Arena α) (handle : Handle) : Bool := (arena.get? handle).isSome

/-- The handle of a slot with a number, if an item is in it. -/
def handleAt? (arena : Arena α) (index : Nat) : Option Handle :=
  match arena.slots[index]? with
  | some (.occupied version _) => some ⟨index, version⟩
  | _ => none

/-- The live handles, by the number of their slot. -/
def handles (arena : Arena α) : List Handle :=
  (List.range arena.slots.size).filterMap arena.handleAt?

/-- The number of items. -/
def size (arena : Arena α) : Nat := arena.handles.length

/-- A vacant slot is one of the slots that there are. -/
theorem lt_size_of_isVacantAt {slots : Array (Slot α)} {index : Nat}
    (vacant : IsVacantAt slots index) : index < slots.size := by
  obtain ⟨version, found⟩ := vacant
  exact (Array.getElem?_eq_some_iff.1 found).1

/-- A live handle leads to a slot that holds an item under its version. -/
theorem occupied_of_contains {arena : Arena α} {handle : Handle} (live : arena.contains handle) :
    ∃ item, arena.slots[handle.index]? = some (.occupied handle.version item) := by
  obtain ⟨item, found⟩ := Option.isSome_iff_exists.1 live
  obtain ⟨slot, held, read⟩ := Option.bind_eq_some_iff.1 found
  cases slot with
  | vacant => simp [Slot.item?] at read
  | occupied version other =>
    simp only [Slot.item?] at read
    split at read
    · next same => exact ⟨other, same ▸ held⟩
    · simp at read

theorem not_isVacantAt_of_contains {arena : Arena α} {handle : Handle}
    (live : arena.contains handle) : ¬ IsVacantAt arena.slots handle.index := by
  obtain ⟨item, held⟩ := occupied_of_contains live
  rintro ⟨version, vacant⟩
  simp [held] at vacant

/-! ### Changing -/

/-- A change of one slot leaves the others vacant. -/
theorem isVacantAt_setIfInBounds {slots : Array (Slot α)} {changed index : Nat}
    (different : changed ≠ index) (slot : Slot α) :
    IsVacantAt (slots.setIfInBounds changed slot) index ↔ IsVacantAt slots index := by
  simp [IsVacantAt, Array.getElem?_setIfInBounds_ne different]

/-- The version that a slot gets when an item moves in. -/
def nextVersion (arena : Arena α) (index : Nat) : Nat :=
  ((arena.slots[index]?).map Slot.version).getD 0 + 1

/-- One more slot at the end leaves the others vacant. -/
theorem isVacantAt_push {slots : Array (Slot α)} {index : Nat}
    (vacant : IsVacantAt slots index) (slot : Slot α) : IsVacantAt (slots.push slot) index := by
  obtain ⟨version, found⟩ := vacant
  obtain ⟨inBounds, held⟩ := Array.getElem?_eq_some_iff.1 found
  exact ⟨version, by rw [Array.getElem?_push_lt inBounds, held]⟩

/-- Add an item in a new slot at the end, under the first version. -/
def push (arena : Arena α) (item : α) : Arena α where
  slots := arena.slots.push (.occupied 1 item)
  vacancies := arena.vacancies
  slotZero_vacant := isVacantAt_push arena.slotZero_vacant _
  vacancies_vacant index member :=
    have vacant := arena.vacancies_vacant index member
    ⟨vacant.1, isVacantAt_push vacant.2 _⟩
  vacancies_nodup := arena.vacancies_nodup

/-- Add an item in the slot that became vacant last. -/
def refill (arena : Arena α) {index : Nat} {rest : List Nat}
    (vacancies : arena.vacancies = index :: rest) (item : α) : Arena α where
  slots := arena.slots.setIfInBounds index (.occupied (arena.nextVersion index) item)
  vacancies := rest
  slotZero_vacant := by
    have positive := (arena.vacancies_vacant index (by simp [vacancies])).1
    exact (isVacantAt_setIfInBounds (by omega) _).2 arena.slotZero_vacant
  vacancies_vacant := by
    intro other member
    have nodup := arena.vacancies_nodup
    rw [vacancies, List.nodup_cons] at nodup
    have different : index ≠ other := fun same => nodup.1 (same ▸ member)
    have vacant := arena.vacancies_vacant other (by simp [vacancies, member])
    exact ⟨vacant.1, (isVacantAt_setIfInBounds different _).2 vacant.2⟩
  vacancies_nodup := by
    have nodup := arena.vacancies_nodup
    rw [vacancies, List.nodup_cons] at nodup
    exact nodup.2

/-- Add an item, in the slot that became vacant last or else in a new one. -/
def insert (arena : Arena α) (item : α) : Handle × Arena α :=
  match vacancies : arena.vacancies with
  | index :: _ => (⟨index, arena.nextVersion index⟩, arena.refill vacancies item)
  | [] => (⟨arena.slots.size, 1⟩, arena.push item)

/-- Put another item in place of the one that a live handle refers to; a handle that is not live
changes nothing. -/
def set (arena : Arena α) (handle : Handle) (item : α) : Arena α :=
  if live : arena.contains handle then
    { slots := arena.slots.setIfInBounds handle.index (.occupied handle.version item)
      vacancies := arena.vacancies
      slotZero_vacant := by
        have different : handle.index ≠ 0 := fun zero =>
          not_isVacantAt_of_contains live (zero ▸ arena.slotZero_vacant)
        exact (isVacantAt_setIfInBounds different _).2 arena.slotZero_vacant
      vacancies_vacant := by
        intro index member
        have vacant := arena.vacancies_vacant index member
        have different : handle.index ≠ index := fun same =>
          not_isVacantAt_of_contains live (same ▸ vacant.2)
        exact ⟨vacant.1, (isVacantAt_setIfInBounds different _).2 vacant.2⟩
      vacancies_nodup := arena.vacancies_nodup }
  else arena

/-- A slot after its item moved out, unless the item stays. -/
def vacate (stays : Handle → Bool) (index : Nat) : Slot α → Slot α
  | .occupied version item =>
    if stays ⟨index, version⟩ then .occupied version item else .vacant (version + 1)
  | .vacant version => .vacant version

/-- Whether an item is in the slot with a number and does not stay. -/
def leaves (arena : Arena α) (stays : Handle → Bool) (index : Nat) : Bool :=
  (arena.handleAt? index).any fun handle => !stays handle

/-- The slots that become vacant, by number. -/
def vacated (arena : Arena α) (stays : Handle → Bool) : List Nat :=
  (List.range arena.slots.size).filter (arena.leaves stays)

/-- After the items left that do not stay, the vacant slots are the ones that were vacant and the
ones that were left. -/
theorem isVacantAt_mapIdx_vacate {arena : Arena α} {stays : Handle → Bool} {index : Nat} :
    IsVacantAt (arena.slots.mapIdx (vacate stays)) index ↔
      IsVacantAt arena.slots index ∨ arena.leaves stays index := by
  simp only [IsVacantAt, leaves, handleAt?, Array.getElem?_mapIdx]
  cases held : arena.slots[index]? with
  | none => simp
  | some slot =>
    cases slot with
    | vacant version => simp [vacate]
    | occupied version item =>
      cases stayed : stays ⟨index, version⟩ <;> simp [vacate, stayed]

theorem not_leaves_of_isVacantAt {arena : Arena α} {stays : Handle → Bool} {index : Nat}
    (vacant : IsVacantAt arena.slots index) : arena.leaves stays index = false := by
  obtain ⟨version, found⟩ := vacant
  simp [leaves, handleAt?, found]

/-- Remove the items whose handles do not stay, slot by slot. -/
def retain (arena : Arena α) (stays : Handle → Bool) : Arena α where
  slots := arena.slots.mapIdx (vacate stays)
  vacancies := (arena.vacated stays).reverse ++ arena.vacancies
  slotZero_vacant := isVacantAt_mapIdx_vacate.2 (.inl arena.slotZero_vacant)
  vacancies_vacant := by
    intro index member
    rcases List.mem_append.1 member with fresh | old
    · have leaving : arena.leaves stays index :=
        (List.mem_filter.1 (List.mem_reverse.1 fresh)).2
      refine ⟨Nat.pos_of_ne_zero fun zero => ?_, isVacantAt_mapIdx_vacate.2 (.inr leaving)⟩
      rw [zero, not_leaves_of_isVacantAt arena.slotZero_vacant] at leaving
      exact Bool.noConfusion leaving
    · have vacant := arena.vacancies_vacant index old
      exact ⟨vacant.1, isVacantAt_mapIdx_vacate.2 (.inl vacant.2)⟩
  vacancies_nodup := by
    refine List.nodup_append.2 ⟨?_, arena.vacancies_nodup, ?_⟩
    · exact List.pairwise_reverse.2 ((List.nodup_range.filter _).imp Ne.symm)
    · rintro fresh freshMember old oldMember rfl
      have leaving := (List.mem_filter.1 (List.mem_reverse.1 freshMember)).2
      rw [not_leaves_of_isVacantAt (arena.vacancies_vacant fresh oldMember).2] at leaving
      exact Bool.noConfusion leaving

/-! ### What is found after a change -/

/-- Two handles that are not the same differ in their slots or in their versions. -/
theorem index_ne_or_version_ne {left right : Handle} (different : left ≠ right) :
    left.index ≠ right.index ∨ left.version ≠ right.version := by
  by_cases same : left.index = right.index
  · exact .inr fun sameVersion => different (by cases left; cases right; simp_all)
  · exact .inl same

@[simp] theorem get?_empty (handle : Handle) : (empty : Arena α).get? handle = none := by
  unfold get? empty
  match handle with
  | ⟨0, _⟩ => rfl
  | ⟨_ + 1, _⟩ => rfl

/-- A handle into a vacant slot finds nothing, whatever its version. -/
theorem get?_eq_none_of_isVacantAt {arena : Arena α} {handle : Handle}
    (vacant : IsVacantAt arena.slots handle.index) : arena.get? handle = none := by
  obtain ⟨version, found⟩ := vacant
  simp [get?, found, Slot.item?]

/-- The null handle is never live. -/
@[simp] theorem get?_null (arena : Arena α) : arena.get? .null = none :=
  get?_eq_none_of_isVacantAt arena.slotZero_vacant

/-- A look-up in slots of which one was changed finds the item there under the new version
only. -/
theorem bind_item?_setIfInBounds {slots : Array (Slot α)} (changed : Handle)
    (inBounds : changed.index < slots.size) (item : α) (handle : Handle) :
    ((slots.setIfInBounds changed.index (.occupied changed.version item))[handle.index]?).bind
        (Slot.item? handle.version) =
      if handle = changed then some item
      else if handle.index = changed.index then none
      else (slots[handle.index]?).bind (Slot.item? handle.version) := by
  by_cases same : handle = changed
  · simp [same, inBounds, Slot.item?]
  · rw [if_neg same]
    by_cases sameSlot : handle.index = changed.index
    · have differentVersion : ¬ changed.version = handle.version := by
        rcases index_ne_or_version_ne same with differentSlot | differentVersion
        · exact absurd sameSlot differentSlot
        · exact fun sameVersion => differentVersion sameVersion.symm
      simp [sameSlot, inBounds, Slot.item?, differentVersion]
    · rw [if_neg sameSlot, Array.getElem?_setIfInBounds_ne fun sameSlot' => sameSlot sameSlot'.symm]

theorem get?_set_self {arena : Arena α} {handle : Handle} (live : arena.contains handle)
    (item : α) : (arena.set handle item).get? handle = some item := by
  obtain ⟨held, found⟩ := occupied_of_contains live
  have inBounds := (Array.getElem?_eq_some_iff.1 found).1
  simp only [set, dif_pos live, get?]
  rw [bind_item?_setIfInBounds handle inBounds, if_pos rfl]

/-- A changed item is found by its own handle only. -/
theorem get?_set_of_ne {arena : Arena α} {handle other : Handle} (different : other ≠ handle)
    (item : α) : (arena.set handle item).get? other = arena.get? other := by
  by_cases live : arena.contains handle
  · obtain ⟨held, found⟩ := occupied_of_contains live
    have inBounds := (Array.getElem?_eq_some_iff.1 found).1
    simp only [set, dif_pos live, get?]
    rw [bind_item?_setIfInBounds handle inBounds, if_neg different]
    split
    case isFalse => rfl
    case isTrue sameSlot =>
      have differentVersion : ¬ handle.version = other.version := by
        rcases index_ne_or_version_ne different with differentSlot | differentVersion
        · exact absurd sameSlot differentSlot
        · exact fun sameVersion => differentVersion sameVersion.symm
      simp [sameSlot, found, Slot.item?, differentVersion]
  · simp [set, live]

/-- A new item goes to a slot that was vacant or not there. -/
theorem get?_insert_fresh (arena : Arena α) (item : α) :
    arena.get? (arena.insert item).1 = none := by
  unfold insert
  split
  case h_1 index rest vacancies =>
    exact get?_eq_none_of_isVacantAt (arena.vacancies_vacant index (by simp [vacancies])).2
  case h_2 => simp [get?]

theorem get?_insert_self (arena : Arena α) (item : α) :
    (arena.insert item).2.get? (arena.insert item).1 = some item := by
  unfold insert
  split
  case h_1 index rest vacancies =>
    have inBounds := lt_size_of_isVacantAt (arena.vacancies_vacant index (by simp [vacancies])).2
    simp [get?, refill, inBounds, Slot.item?]
  case h_2 => simp [get?, push, Slot.item?]

/-- A new item hides none that was there: every other handle finds what it found before. -/
theorem get?_insert_of_ne {arena : Arena α} {item : α} {handle : Handle}
    (different : handle ≠ (arena.insert item).1) :
    (arena.insert item).2.get? handle = arena.get? handle := by
  revert different
  unfold insert
  split
  case h_1 index rest vacancies =>
    intro different
    have vacant := (arena.vacancies_vacant index (by simp [vacancies])).2
    simp only [get?, refill]
    rw [bind_item?_setIfInBounds ⟨index, arena.nextVersion index⟩
      (lt_size_of_isVacantAt vacant), if_neg different]
    split
    case isFalse => rfl
    case isTrue sameSlot =>
      have missing : arena.get? handle = none := get?_eq_none_of_isVacantAt (sameSlot ▸ vacant)
      exact missing.symm
  case h_2 =>
    intro different
    simp only [get?, push]
    by_cases last : handle.index = arena.slots.size
    · have differentVersion : ¬ 1 = handle.version := by
        rcases index_ne_or_version_ne different with differentSlot | differentVersion
        · exact absurd last differentSlot
        · exact fun sameVersion => differentVersion sameVersion.symm
      simp [last, Slot.item?, differentVersion]
    · rw [Array.getElem?_push]
      simp [last]

/-- The items that stay are found as before, and no others. -/
theorem get?_retain (arena : Arena α) (stays : Handle → Bool) (handle : Handle) :
    (arena.retain stays).get? handle = if stays handle then arena.get? handle else none := by
  simp only [get?, retain, Array.getElem?_mapIdx]
  cases held : arena.slots[handle.index]? with
  | none => simp
  | some slot =>
    cases slot with
    | vacant version => simp [vacate, Slot.item?]
    | occupied version item =>
      by_cases same : version = handle.version
      · cases stayed : stays handle <;> simp [vacate, Slot.item?, same, stayed]
      · cases stayed : stays ⟨handle.index, version⟩ <;> simp [vacate, Slot.item?, same, stayed]

/-- The list of the handles holds exactly the live ones. -/
theorem mem_handles_iff {arena : Arena α} {handle : Handle} :
    handle ∈ arena.handles ↔ arena.contains handle := by
  simp only [handles, List.mem_filterMap, List.mem_range, contains, get?, handleAt?]
  constructor
  · rintro ⟨index, inBounds, found⟩
    rw [Array.getElem?_eq_getElem inBounds] at found
    cases held : arena.slots[index] with
    | vacant => simp [held] at found
    | occupied version item =>
      simp only [held, Option.some.injEq] at found
      subst found
      simp [Array.getElem?_eq_getElem inBounds, held, Slot.item?]
  · intro live
    have inBounds : handle.index < arena.slots.size := by
      apply Classical.byContradiction
      intro outside
      have missing : arena.slots[handle.index]? = none := Array.getElem?_eq_none (by omega)
      simp [missing] at live
    refine ⟨handle.index, inBounds, ?_⟩
    rw [Array.getElem?_eq_getElem inBounds] at live ⊢
    cases held : arena.slots[handle.index] with
    | vacant => simp [held, Slot.item?] at live
    | occupied version item =>
      simp only [held, Option.bind_some, Slot.item?] at live
      split at live
      · next same => simp [same]
      · simp at live

end Arena

end SolidScene
