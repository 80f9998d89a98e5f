/-
This file counts the items of an arena. The live handles form a list without
repetitions, so two arenas in which the same handles are live have as many items.
Adding an item makes one more handle live, replacing an item none, and removing
items leaves the handles that stay.

Each change is described twice, first by which handles are live after it and then by
their list, up to its order. The second follows from the first, because a list
without repetitions is given by its members, and the number of items is read off it.
At the end stands the case in which removing changes nothing at all: where every
item stays, the slots and the vacancies are as they were, so that a scene pruned
twice is the scene pruned once and not only one with the same nodes.
-/
import Mathlib.Data.List.Perm.Basic
import Mathlib.Data.List.Nodup
import SolidScene.Scene.Arena

namespace SolidScene

namespace Arena

variable {α : Type}

/-! ### Which handles are live -/

theorem contains_iff {arena : Arena α} {handle : Handle} :
    arena.contains handle ↔ ∃ item, arena.get? handle = some item :=
  Option.isSome_iff_exists

theorem contains_of_get? {arena : Arena α} {handle : Handle} {item : α}
    (found : arena.get? handle = some item) : arena.contains handle :=
  contains_iff.mpr ⟨item, found⟩

theorem get?_eq_none_iff {arena : Arena α} {handle : Handle} :
    arena.get? handle = none ↔ ¬ arena.contains handle := by
  simp [contains]

/-- Adding an item makes its handle live, and no other. -/
theorem contains_insert_iff {arena : Arena α} {item : α} {handle : Handle} :
    (arena.insert item).2.contains handle ↔
      handle = (arena.insert item).1 ∨ arena.contains handle := by
  by_cases same : handle = (arena.insert item).1
  · rw [same]
    exact ⟨fun _ => Or.inl rfl, fun _ => contains_of_get? (get?_insert_self arena item)⟩
  · rw [contains, contains, get?_insert_of_ne same]
    exact ⟨Or.inr, fun live => live.resolve_left same⟩

/-- Replacing an item leaves the same handles live. -/
theorem contains_set_iff {arena : Arena α} {changed handle : Handle} {item : α} :
    (arena.set changed item).contains handle ↔ arena.contains handle := by
  by_cases live : arena.contains changed
  · by_cases same : handle = changed
    · rw [same]
      exact ⟨fun _ => live, fun _ => contains_of_get? (get?_set_self live item)⟩
    · rw [contains, contains, get?_set_of_ne same]
  · rw [set, dif_neg live]

/-- Removing items leaves the handles that stay. -/
theorem contains_retain_iff {arena : Arena α} {stays : Handle → Bool} {handle : Handle} :
    (arena.retain stays).contains handle ↔ arena.contains handle ∧ stays handle := by
  rw [contains, contains, get?_retain]
  cases stays handle <;> simp

/-! ### How many handles are live -/

theorem index_of_handleAt? {arena : Arena α} {index : Nat} {handle : Handle}
    (found : arena.handleAt? index = some handle) : handle.index = index := by
  unfold handleAt? at found
  split at found
  · exact (congrArg Handle.index (Option.some.inj found)).symm
  · exact absurd found (by simp)

/-- No handle is listed twice, since each slot has at most one. -/
theorem handles_nodup (arena : Arena α) : arena.handles.Nodup := by
  refine List.Nodup.filterMap (fun first second handle firstFound secondFound => ?_)
    List.nodup_range
  rw [← index_of_handleAt? firstFound, ← index_of_handleAt? secondFound]

/-- A list without repetitions of the live handles is theirs, up to the order. -/
theorem handles_perm {arena : Arena α} {handles : List Handle} (nodup : handles.Nodup)
    (same : ∀ handle, arena.contains handle ↔ handle ∈ handles) :
    arena.handles.Perm handles :=
  (List.perm_ext_iff_of_nodup arena.handles_nodup nodup).mpr fun handle =>
    mem_handles_iff.trans (same handle)

/-- A new item adds its handle to the list, wherever it comes to stand. -/
theorem handles_insert_perm (arena : Arena α) (item : α) :
    (arena.insert item).2.handles.Perm ((arena.insert item).1 :: arena.handles) := by
  have fresh : (arena.insert item).1 ∉ arena.handles := fun member =>
    get?_eq_none_iff.mp (get?_insert_fresh arena item) (mem_handles_iff.mp member)
  refine handles_perm (List.nodup_cons.mpr ⟨fresh, arena.handles_nodup⟩) fun handle => ?_
  rw [contains_insert_iff, List.mem_cons, mem_handles_iff]

theorem handles_set_perm (arena : Arena α) (changed : Handle) (item : α) :
    (arena.set changed item).handles.Perm arena.handles :=
  handles_perm arena.handles_nodup fun handle => by rw [contains_set_iff, mem_handles_iff]

theorem handles_retain_perm (arena : Arena α) (stays : Handle → Bool) :
    (arena.retain stays).handles.Perm (arena.handles.filter stays) :=
  handles_perm (arena.handles_nodup.filter _) fun handle => by
    rw [contains_retain_iff, List.mem_filter, mem_handles_iff]

@[simp] theorem size_insert (arena : Arena α) (item : α) :
    (arena.insert item).2.size = arena.size + 1 :=
  (handles_insert_perm arena item).length_eq

@[simp] theorem size_set (arena : Arena α) (changed : Handle) (item : α) :
    (arena.set changed item).size = arena.size :=
  (handles_set_perm arena changed item).length_eq

theorem size_retain_le (arena : Arena α) (stays : Handle → Bool) :
    (arena.retain stays).size ≤ arena.size :=
  Nat.le_trans (Nat.le_of_eq (handles_retain_perm arena stays).length_eq)
    (List.length_filter_le _ _)

/-! ### Removing nothing -/

/-- Where every item stays, removing changes nothing, the vacancies included. -/
theorem retain_eq_self {arena : Arena α} {stays : Handle → Bool}
    (all : ∀ handle, arena.contains handle → stays handle) : arena.retain stays = arena := by
  have remains (index version : Nat) (item : α)
      (held : arena.slots[index]? = some (.occupied version item)) : stays ⟨index, version⟩ :=
    all ⟨index, version⟩ (by simp [contains, get?, held, Slot.item?])
  have slots : arena.slots.mapIdx (vacate stays) = arena.slots := by
    refine Array.ext_getElem? fun index => ?_
    rw [Array.getElem?_mapIdx]
    cases held : arena.slots[index]? with
    | none => rfl
    | some slot =>
      cases slot with
      | vacant version => rfl
      | occupied version item => simp [vacate, remains index version item held]
  have vacated : arena.vacated stays = [] := by
    refine List.filter_eq_nil_iff.mpr fun index _ => ?_
    unfold leaves handleAt?
    cases held : arena.slots[index]? with
    | none => simp
    | some slot =>
      cases slot with
      | vacant version => simp
      | occupied version item => simp [remains index version item held]
  cases arena
  simp only [retain, slots, vacated, List.reverse_nil, List.nil_append]

end Arena

end SolidScene
