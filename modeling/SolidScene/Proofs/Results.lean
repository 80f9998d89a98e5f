/-
This file takes results apart: what succeeded as a whole succeeded in each of its
steps, and a step that fails never gives a value. A list whose items are read back
one by one is read back as a whole.

The readers of the library are programs that may fail, and almost every proof about
one of them begins with the value that it gave and asks what the steps gave on the
way. The lemmas here answer that for two steps; they are used in place of unfolding
a reader.
-/

namespace SolidScene

variable {ε α β : Type}

theorem throw_ne_ok (fault : ε) (value : α) : (throw fault : Except ε α) ≠ .ok value := nofun

/-- Two steps give a value if the first one gives something from which the second one gives it. -/
theorem bind_eq_ok_iff {result : Except ε α} {next : α → Except ε β} {value : β} :
    (result >>= next) = .ok value ↔ ∃ first, result = .ok first ∧ next first = .ok value := by
  cases result with
  | error fault => simp [bind, Except.bind]
  | ok first => simp [bind, Except.bind]

/-- A step whose value is changed gives what its value is changed to. -/
theorem map_eq_ok_iff {result : Except ε α} {next : α → β} {value : β} :
    result.map next = .ok value ↔ ∃ first, result = .ok first ∧ next first = value := by
  cases result with
  | error fault => simp [Except.map]
  | ok first => simp [Except.map]

/-- Items that were written one by one are read back one by one. -/
theorem mapM_map_eq_pure {m : Type → Type} [Monad m] [LawfulMonad m] {write : α → β}
    {read : β → m α} {items : List α} (each : ∀ item ∈ items, read (write item) = pure item) :
    (items.map write).mapM read = pure items := by
  induction items with
  | nil => rfl
  | cons item rest inductionHypothesis =>
    obtain ⟨here, later⟩ := List.forall_mem_cons.mp each
    rw [List.map_cons, List.mapM_cons, here, inductionHypothesis later, pure_bind, pure_bind]

end SolidScene
