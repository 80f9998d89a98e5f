/-
This file says what the edits of one list do to it and how they are undone. A child
is put last, or in front of the first occurrence of another handle, and the first
occurrence of a child is taken out; all else in the scene is as before. So a child
that was not in the list is taken out again without a trace, and a child of a list
without repetitions can be taken out and put back in front of its next sibling.

The lists may hold a handle several times, also the child itself, and then the first
occurrence is the one that counts; the positions are therefore given by splitting a
list into what stands in front, the handle, and the rest. Undoing gives back the
identical scene and not only the same lists, as a list put back where it was is no
change at all.
-/
import SolidScene.Proofs.Scene.Alteration
import SolidScene.Proofs.Scene.History

namespace SolidScene

/-! ### Lists with one entry more or less -/

/-- A child is put at the end, or in front of the first occurrence of the sibling. -/
theorem placeBefore_cases (child before : Handle) (list : List Handle) :
    before ∉ list ∧ placeBefore child before list = list ++ [child] ∨
      ∃ front rest, list = front ++ before :: rest ∧ before ∉ front ∧
        placeBefore child before list = front ++ child :: before :: rest := by
  by_cases member : before ∈ list
  · obtain ⟨front, rest, rfl, first⟩ := List.eq_append_cons_of_mem member
    exact Or.inr ⟨front, rest, rfl, first, placeBefore_append_cons first⟩
  · exact Or.inl ⟨member, placeBefore_of_not_mem member⟩

theorem erase_append_cons {child : Handle} {front : List Handle} (first : child ∉ front)
    (rest : List Handle) : (front ++ child :: rest).erase child = front ++ rest := by
  rw [List.erase_append_right _ first, List.erase_cons_head]

/-- Nothing is taken out, or the first occurrence of the child. -/
theorem erase_cases (child : Handle) (list : List Handle) :
    child ∉ list ∧ list.erase child = list ∨
      ∃ front rest, list = front ++ child :: rest ∧ child ∉ front ∧
        list.erase child = front ++ rest := by
  by_cases member : child ∈ list
  · obtain ⟨front, rest, rfl, first⟩ := List.eq_append_cons_of_mem member
    exact Or.inr ⟨front, rest, rfl, first, erase_append_cons first rest⟩
  · exact Or.inl ⟨member, List.erase_of_not_mem member⟩

/-- A child that was not in the list is the one that was put there. -/
theorem erase_placeBefore {child : Handle} {list : List Handle} (absent : child ∉ list)
    (before : Handle) : (placeBefore child before list).erase child = list := by
  rcases placeBefore_cases child before list with ⟨-, placed⟩ | ⟨front, rest, rfl, -, placed⟩
  · rw [placed, erase_append_cons absent, List.append_nil]
  · rw [placed, erase_append_cons fun member => absent (List.mem_append_left _ member)]

/-- Put a child in front of the sibling that came next, or at the end if none did. -/
def Edit.putBack (site : Site) (child : Handle) : (next : Option Handle) → Edit Unit
  | none => append site child
  | some next => insertBefore site child next

namespace Scene

variable {scene : Scene} {site : Site} {child : Handle} {list other : List Handle}

/-! ### All else stays -/

/-- A scene that has a given list at one site and is otherwise the same as before: the other lists,
the payloads and the live handles. -/
structure IsRelisted (scene : Scene) (site : Site) (list : List Handle) (after : Scene) : Prop where
  /-- The list of the site. -/
  list_eq : after.list? site = some list
  /-- The lists of all other sites. -/
  others_eq : ∀ other, other ≠ site → after.list? other = scene.list? other
  /-- The payloads of all nodes. -/
  payloads_eq : ∀ handle, after.payload? handle = scene.payload? handle
  /-- The handles that are live. -/
  contains_iff : ∀ handle, after.contains handle ↔ scene.contains handle

theorem isRelisted_setList (found : scene.list? site = some list) (other : List Handle) :
    scene.IsRelisted site other (scene.setList site other) where
  list_eq := list?_setList_self found other
  others_eq _ different := list?_setList_of_ne different other
  payloads_eq := payload?_setList scene site other
  contains_iff _ := contains_setList_iff

/-! ### Undoing an edit -/

/-- An edit that changes a list is undone by one that makes it what it was. -/
theorem run_undone {edit undo : Edit Unit} (found : scene.list? site = some list)
    (done : edit.run scene = .ok () (scene.setList site other))
    (undone : undo.run (scene.setList site other) =
      .ok () ((scene.setList site other).setList site list)) :
    (edit >>= fun _ => undo).run scene = .ok () scene := by
  rw [EStateM.run_bind, done]
  show undo.run (scene.setList site other) = .ok () scene
  rw [undone, setList_setList, setList_of_list? found]

/-- A child that was put into a list is taken out again, and the scene is the one of before. -/
theorem run_remove_undone (found : scene.list? site = some list) {edit : Edit Unit}
    (done : edit.run scene = .ok () (scene.setList site other))
    (same : other.erase child = list) :
    (edit >>= fun _ => Edit.remove site child).run scene = .ok () scene := by
  refine run_undone found done ?_
  rw [Edit.run_remove (list?_setList_self found other), same]

/-- What is put back stands where it stood, since its next sibling does not stand earlier. -/
theorem run_putBack {front rest : List Handle} (live : scene.contains child)
    (found : scene.list? site = some (front ++ rest)) (distinct : (front ++ rest).Nodup) :
    (Edit.putBack site child rest.head?).run scene =
      .ok () (scene.setList site (front ++ child :: rest)) := by
  cases rest with
  | nil =>
    rw [List.append_nil] at found
    exact Edit.run_append live found
  | cons next rest =>
    have first : next ∉ front := fun member =>
      (List.nodup_append.mp distinct).2.2 next member next List.mem_cons_self rfl
    rw [List.head?_cons, Edit.putBack, Edit.run_insertBefore live found,
      placeBefore_append_cons first]

/-- The three edits of a list succeed for a list that is there and a live child, and change this
list only. The child is put last, or in front of the first occurrence of another handle, last if
there is none; or its first occurrence is taken out, if there is one. A child that was not in the
list can be put there and taken out, and a child of a list without repetitions can be taken out and
put back in front of its next sibling, and the scene is the one that it was. -/
theorem edits_of_one_list (found : scene.list? site = some list) (live : scene.contains child)
    (before : Handle) :
    (∃ after, (Edit.append site child).run scene = .ok () after ∧
      scene.IsRelisted site (list ++ [child]) after) ∧
    (∃ placed after, (Edit.insertBefore site child before).run scene = .ok () after ∧
      scene.IsRelisted site placed after ∧
      (before ∉ list ∧ placed = list ++ [child] ∨
        ∃ front rest, list = front ++ before :: rest ∧ before ∉ front ∧
          placed = front ++ child :: before :: rest)) ∧
    (∃ left after, (Edit.remove site child).run scene = .ok () after ∧
      scene.IsRelisted site left after ∧
      (child ∉ list ∧ left = list ∧ after = scene ∨
        ∃ front rest, list = front ++ child :: rest ∧ child ∉ front ∧ left = front ++ rest)) ∧
    (child ∉ list →
      (Edit.append site child >>= fun _ => Edit.remove site child).run scene = .ok () scene ∧
      (Edit.insertBefore site child before >>= fun _ => Edit.remove site child).run scene =
        .ok () scene) ∧
    (list.Nodup → ∀ front rest, list = front ++ child :: rest →
      (Edit.remove site child >>= fun _ => Edit.putBack site child rest.head?).run scene =
        .ok () scene) := by
  have appended := Edit.run_append live found
  have placed := Edit.run_insertBefore live found before
  have removed := Edit.run_remove found child
  refine ⟨⟨_, appended, isRelisted_setList found _⟩,
    ⟨_, _, placed, isRelisted_setList found _, placeBefore_cases child before list⟩,
    ⟨_, _, removed, isRelisted_setList found _, ?_⟩, fun absent => ⟨?_, ?_⟩, ?_⟩
  · rcases erase_cases child list with ⟨absent, same⟩ | present
    · exact Or.inl ⟨absent, same, by rw [same, setList_of_list? found]⟩
    · exact Or.inr present
  · exact run_remove_undone found appended (by rw [erase_append_cons absent, List.append_nil])
  · exact run_remove_undone found placed (erase_placeBefore absent before)
  · rintro distinct front rest rfl
    obtain ⟨absent, distinct⟩ := List.nodup_middle.mp distinct |> List.nodup_cons.mp
    have first : child ∉ front := fun member => absent (List.mem_append_left rest member)
    rw [erase_append_cons first] at removed
    exact run_undone found removed (run_putBack (contains_setList_iff.mpr live)
      (list?_setList_self found _) distinct)

/-- In the circle a node is put into its own list in front of its child and taken out again, and
the child is taken out and put back. Of the twins one is left. -/
theorem edits_of_one_list_circle_and_twins :
    (Edit.insertBefore (.under ⟨1, 3⟩) ⟨1, 3⟩ ⟨2, 3⟩ >>= fun _ =>
        Edit.remove (.under ⟨1, 3⟩) ⟨1, 3⟩).run circle = .ok () circle ∧
      (Edit.remove (.under ⟨1, 3⟩) ⟨2, 3⟩ >>= fun _ =>
        Edit.append (.under ⟨1, 3⟩) ⟨2, 3⟩).run circle = .ok () circle ∧
      ∃ after, (Edit.remove (.under ⟨1, 1⟩) ⟨2, 1⟩).run twins = .ok () after ∧
        after.list? (.under ⟨1, 1⟩) = some [⟨2, 1⟩] := by
  have loop : circle.list? (.under ⟨1, 3⟩) = some [⟨2, 3⟩] := by cbv
  have pair : twins.list? (.under ⟨1, 1⟩) = some [⟨2, 1⟩, ⟨2, 1⟩] := by cbv
  have root : circle.contains ⟨1, 3⟩ := by cbv
  have child : circle.contains ⟨2, 3⟩ := by cbv
  have twin : twins.contains ⟨2, 1⟩ := by cbv
  obtain ⟨-, -, -, undone, -⟩ := edits_of_one_list loop root ⟨2, 3⟩
  obtain ⟨-, -, -, -, putBack⟩ := edits_of_one_list loop child .null
  obtain ⟨-, -, ⟨left, after, run, relisted, shape⟩, -, -⟩ := edits_of_one_list pair twin .null
  refine ⟨(undone (by decide)).2, putBack (by decide) [] [] rfl, after, run, ?_⟩
  rcases shape with ⟨absent, -, -⟩ | ⟨front, rest, split, first, rfl⟩
  · exact absurd List.mem_cons_self absent
  · cases front with
    | nil => rw [relisted.list_eq, (List.cons.inj split).2]; rfl
    | cons other front => exact absurd ((List.cons.inj split).1 ▸ List.mem_cons_self) first

end Scene

end SolidScene
