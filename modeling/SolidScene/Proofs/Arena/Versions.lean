/-
This file shows that an arena never issues a handle twice. The version of a slot
goes up whenever an item moves in or out and never down, so a handle whose slot has
gone past its version is spent: it is not live, no change makes it live, and no new
item gets it. A live handle stays live or becomes spent, whatever moves into its
slot later.

One relation between two arenas says that the second is later than the first: every
slot is still there, under a version that is not lower. Each of the three changes of
an arena leads to a later one, and a spent handle is spent in every later arena.
Which item a handle finds is of no concern here; that is why the relation does not
mention items at all.
-/
import SolidScene.Proofs.Arena.Handles

namespace SolidScene

namespace Arena

variable {α : Type}

/-! ### Versions never go down -/

/-- Every slot of one arena is in the other one, under a version that is not lower. -/
def IsBehind (before after : Arena α) : Prop :=
  ∀ (index : Nat) (slot : Slot α), before.slots[index]? = some slot →
    ∃ later, after.slots[index]? = some later ∧ slot.version ≤ later.version

/-- A change of one slot under a version that is not lower brings the slots forward. -/
theorem isBehind_setIfInBounds {before after : Arena α} {changed : Nat} {slot : Slot α}
    (slots : after.slots = before.slots.setIfInBounds changed slot)
    (forward : ∀ held, before.slots[changed]? = some held → held.version ≤ slot.version) :
    before.IsBehind after := by
  intro index held found
  rw [slots]
  by_cases same : changed = index
  · subst same
    have inBounds := (Array.getElem?_eq_some_iff.mp found).1
    exact ⟨slot, Array.getElem?_setIfInBounds_self_of_lt inBounds, forward held found⟩
  · exact ⟨held, (Array.getElem?_setIfInBounds_ne same).trans found, Nat.le_refl _⟩

theorem isBehind_insert (arena : Arena α) (item : α) : arena.IsBehind (arena.insert item).2 := by
  unfold insert
  split
  case h_1 index rest vacancies =>
    refine isBehind_setIfInBounds rfl fun held found => ?_
    rw [Slot.version, nextVersion, found, Option.map_some, Option.getD_some]
    exact Nat.le_succ _
  case h_2 =>
    intro index held found
    obtain ⟨inBounds, rfl⟩ := Array.getElem?_eq_some_iff.mp found
    exact ⟨_, Array.getElem?_push_lt inBounds, Nat.le_refl _⟩

/-- Another item under the same version leaves all versions as they are. -/
theorem isBehind_set (arena : Arena α) (changed : Handle) (item : α) :
    arena.IsBehind (arena.set changed item) := by
  unfold set
  split
  case isTrue live =>
    obtain ⟨old, occupied⟩ := occupied_of_contains live
    refine isBehind_setIfInBounds rfl fun held found => ?_
    cases occupied.symm.trans found
    exact Nat.le_refl _
  case isFalse => exact fun index held found => ⟨held, found, Nat.le_refl _⟩

theorem version_le_vacate (stays : Handle → Bool) (index : Nat) (slot : Slot α) :
    slot.version ≤ (vacate stays index slot).version := by
  cases slot with
  | vacant version => exact Nat.le_refl _
  | occupied version item =>
    rw [vacate]
    split
    · exact Nat.le_refl _
    · exact Nat.le_succ _

theorem isBehind_retain (arena : Arena α) (stays : Handle → Bool) :
    arena.IsBehind (arena.retain stays) := by
  intro index held found
  refine ⟨vacate stays index held, ?_, version_le_vacate stays index held⟩
  simp only [retain, Array.getElem?_mapIdx, found, Option.map_some]

/-! ### Spent handles -/

/-- The slot of a handle has gone past the version that the handle has. -/
def IsSpent (arena : Arena α) (handle : Handle) : Prop :=
  ∃ slot, arena.slots[handle.index]? = some slot ∧ handle.version < slot.version

/-- A spent handle finds nothing: its slot has another version, or is vacant. -/
theorem IsSpent.not_contains {arena : Arena α} {handle : Handle} (spent : arena.IsSpent handle) :
    ¬ arena.contains handle := by
  intro live
  obtain ⟨slot, held, later⟩ := spent
  obtain ⟨item, occupied⟩ := occupied_of_contains live
  cases held.symm.trans occupied
  exact Nat.lt_irrefl _ later

/-- A spent handle stays spent. -/
theorem IsSpent.of_isBehind {before after : Arena α} {handle : Handle}
    (spent : before.IsSpent handle) (behind : before.IsBehind after) : after.IsSpent handle := by
  obtain ⟨slot, held, later⟩ := spent
  obtain ⟨other, otherHeld, forward⟩ := behind handle.index slot held
  exact ⟨other, otherHeld, Nat.lt_of_lt_of_le later forward⟩

/-- The handle of an item that is removed is spent. -/
theorem isSpent_retain {arena : Arena α} {handle : Handle} (live : arena.contains handle)
    {stays : Handle → Bool} (leaves : ¬ stays handle) : (arena.retain stays).IsSpent handle := by
  obtain ⟨item, occupied⟩ := occupied_of_contains live
  refine ⟨.vacant (handle.version + 1), ?_, Nat.lt_succ_self _⟩
  simp only [retain, Array.getElem?_mapIdx, occupied, Option.map_some, vacate, leaves]
  rfl

end Arena

end SolidScene
