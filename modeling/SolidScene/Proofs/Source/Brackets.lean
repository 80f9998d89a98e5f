/-
This file says when brackets are nested. Reading characters from left to right, one
keeps the groups that are open; a closing bracket has to close the innermost of
them, and at the end none may be left. Nested texts one after the other are nested,
and so is a nested text between two brackets that belong together.

The groups that are open are a list, with the innermost at its head, and a text
takes it to another such list or to nothing. Groups further out make no difference
to a text that is nested, so it can be put anywhere. Whether a text is nested can be
computed; for the generated texts it is proved from their parts, and characters that
are no brackets are passed over.
-/
import Mathlib.Data.List.Basic
import SolidScene.Proofs.Source.Plain

namespace SolidScene

/-- A kind of brackets. -/
inductive Bracket where
  | round
  | square
  | curly
deriving DecidableEq

namespace Bracket

/-- The kinds of brackets. -/
def all : List Bracket := [round, square, curly]

/-- The bracket that opens a group. -/
def opening : Bracket → Char
  | round => '('
  | square => '['
  | curly => '\x7b'

/-- The bracket that closes a group. -/
def closing : Bracket → Char
  | round => ')'
  | square => ']'
  | curly => '\x7d'

/-- A text between two brackets that belong together. -/
def around (bracket : Bracket) (text : String) : String :=
  String.ofList [bracket.opening] ++ text ++ String.ofList [bracket.closing]

theorem toList_around (bracket : Bracket) (text : String) :
    (bracket.around text).toList = bracket.opening :: text.toList ++ [bracket.closing] := by
  rw [around, String.toList_append, String.toList_append, String.toList_ofList,
    String.toList_ofList, List.singleton_append]

end Bracket

namespace Source

/-- The groups that are open behind a character, the innermost first, given those that are open
in front of it. There is no answer if the character closes a group that is not the innermost. -/
def groupsAfter (groups : List Bracket) (character : Char) : Option (List Bracket) :=
  match Bracket.all.find? (·.opening = character), Bracket.all.find? (·.closing = character) with
  | some bracket, _ => some (bracket :: groups)
  | none, none => some groups
  | none, some bracket => if groups.head? = some bracket then some groups.tail else none

/-- Every group that is opened is closed, and no other, the innermost always first. -/
def IsNested (text : List Char) : Prop := text.foldlM groupsAfter [] = some []

instance (text : List Char) : Decidable (IsNested text) :=
  inferInstanceAs (Decidable (text.foldlM groupsAfter [] = some []))

/-- Groups further out make no difference. -/
theorem groupsAfter_append {groups after : List Bracket} {character : Char}
    (step : groupsAfter groups character = some after) (outer : List Bracket) :
    groupsAfter (groups ++ outer) character = some (after ++ outer) := by
  unfold groupsAfter at step ⊢
  cases opened : Bracket.all.find? (·.opening = character) with
  | some bracket =>
    rw [opened] at step
    rw [← Option.some.inj step, List.cons_append]
  | none =>
    rw [opened] at step
    cases closed : Bracket.all.find? (·.closing = character) with
    | none =>
      rw [closed] at step
      rw [← Option.some.inj step]
    | some bracket =>
      rw [closed] at step
      dsimp only at step ⊢
      split at step
      case isFalse => exact absurd step (by simp)
      case isTrue innermost =>
        cases groups with
        | nil => exact absurd innermost (by simp)
        | cons first rest =>
          rw [← Option.some.inj step]
          exact if_pos innermost

theorem foldlM_groupsAfter_append {text : List Char} {groups after : List Bracket}
    (steps : text.foldlM groupsAfter groups = some after) (outer : List Bracket) :
    text.foldlM groupsAfter (groups ++ outer) = some (after ++ outer) := by
  induction text generalizing groups with
  | nil =>
    rw [← Option.some.inj steps]
    rfl
  | cons character text inductionHypothesis =>
    rw [List.foldlM_cons] at steps ⊢
    obtain ⟨between, step, rest⟩ := Option.bind_eq_some_iff.mp steps
    rw [groupsAfter_append step outer]
    exact inductionHypothesis rest

/-- Nested texts one after the other are nested. -/
theorem IsNested.append {first rest : List Char} (left : IsNested first)
    (right : IsNested rest) : IsNested (first ++ rest) := by
  rw [IsNested, List.foldlM_append, left]
  exact right

/-- A nested text between two brackets that belong together is nested. -/
theorem IsNested.around {text : List Char} (nested : IsNested text) (bracket : Bracket) :
    IsNested (bracket.opening :: text ++ [bracket.closing]) := by
  have opens : groupsAfter [] bracket.opening = some [bracket] := by cases bracket <;> rfl
  have closes : groupsAfter [bracket] bracket.closing = some [] := by cases bracket <;> rfl
  have inside : text.foldlM groupsAfter [bracket] = some [bracket] :=
    foldlM_groupsAfter_append nested [bracket]
  rw [IsNested, List.cons_append, List.foldlM_cons, opens]
  simp only [Option.bind_eq_bind, Option.bind_some, List.foldlM_append, inside,
    List.foldlM_cons, closes, List.foldlM_nil, Option.pure_def]

/-- A character that means nothing to a reader of the source opens and closes no group. -/
theorem groupsAfter_of_not_mem_marks {character : Char} (unmarked : character ∉ marks)
    (groups : List Bracket) : groupsAfter groups character = some groups := by
  have apart (bracket : Bracket) : bracket.opening ≠ character ∧ bracket.closing ≠ character := by
    constructor
    · rintro rfl
      exact unmarked (by cases bracket <;> decide)
    · rintro rfl
      exact unmarked (by cases bracket <;> decide)
  simp [groupsAfter, Bracket.all, apart]

/-- Without brackets a text is nested. -/
theorem isNested_of_bare {text : List Char} (bare : ∀ character ∈ text, character ∉ marks) :
    IsNested text := by
  induction text with
  | nil => rfl
  | cons character text inductionHypothesis =>
    obtain ⟨here, later⟩ := List.forall_mem_cons.mp bare
    rw [IsNested, List.foldlM_cons, groupsAfter_of_not_mem_marks here]
    exact inductionHypothesis later

theorem isNested_of_isPlain {text : String} (isPlain : IsPlain text) : IsNested text.toList :=
  isNested_of_bare isPlain

end Source

end SolidScene
