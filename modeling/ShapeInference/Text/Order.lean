import ShapeInference.Text.Basic

/-!
# The order of texts

Texts are ordered code point by code point, and the beginning of a text comes before the text.

- `Text.precedes`: whether a text comes before another;
- `Text.precedes_irrefl`, `Text.precedes_trans`, `Text.precedes_total`: this is a strict order in
  which any two different texts are comparable.
-/

namespace ShapeInference

namespace Text

/-- Whether a text comes before another, code point by code point. -/
def precedes : Text → Text → Bool
  | [], [] => false
  | [], _ :: _ => true
  | _ :: _, [] => false
  | a :: s, b :: t => a.val < b.val || (a = b && precedes s t)

/-- No text comes before itself. -/
theorem precedes_irrefl (t : Text) : t.precedes t = false := by
  induction t with
  | nil => rfl
  | cons a t ih => simp [precedes, ih]

/-- Of a text that comes before a second and that before a third, the first comes before the third.
-/
theorem precedes_trans {s t u : Text} (h : s.precedes t = true) (k : t.precedes u = true) :
    s.precedes u = true := by
  induction s generalizing t u with
  | nil => cases t <;> cases u <;> simp_all [precedes]
  | cons a s ih =>
    cases t with
    | nil => simp [precedes] at h
    | cons b t =>
      cases u with
      | nil => simp [precedes] at k
      | cons c u =>
        simp only [precedes, Bool.or_eq_true, Bool.and_eq_true, decide_eq_true_eq] at h k ⊢
        rcases h with h | ⟨rfl, h⟩
        · rcases k with k | ⟨rfl, _⟩
          · exact .inl (Nat.lt_trans h k)
          · exact .inl h
        · rcases k with k | ⟨rfl, k⟩
          · exact .inl k
          · exact .inr ⟨rfl, ih h k⟩

/-- Of two texts that differ, one comes before the other. -/
theorem precedes_total {s t : Text} (h : s.precedes t = false) (k : t.precedes s = false) :
    s = t := by
  induction s generalizing t with
  | nil => cases t <;> simp_all [precedes]
  | cons a s ih =>
    cases t with
    | nil => simp [precedes] at k
    | cons b t =>
      simp only [precedes, Bool.or_eq_false_iff, decide_eq_false_iff_not, Nat.not_lt] at h k
      obtain rfl : a = b := Fin.ext (Nat.le_antisymm k.1 h.1)
      simp only [decide_true, Bool.true_and] at h k
      rw [ih h.2 k.2]

end Text

end ShapeInference
