import Mathlib.Data.Finset.Card
import ShapeInference.Proofs.Sampling
import ShapeInference.Proofs.Settings

/-!
# Which items of a sequence are taken

A strategy is told by a few positions, which may coincide in a short sequence. Sampling goes through
lists of positions, or along the items, and takes what it meets on the way. What it takes are the
items at the intended positions, each once, in order; items are never compared.

- `Strategy.intended`, `Strategy.count`: the positions that a strategy is for, and how many they
  are;
- `Strategy.Picks`: what it is to pick the items at these positions;
- `Strategy.picks_of_taken`: the items at the listed positions are such a pick;
- `Value.IsSequence`: a value with its number of items, and the item at each position;
- `Value.sample_takes_intended_positions`: sampling picks the items at the intended positions, of
  every sequence whose length is counted, as far as there is memory;
- `Value.sample_fails_of_uncounted_range`: a range may be longer than what is counted, and longer
  than what there is memory for.
-/

namespace ShapeInference

namespace Strategy

variable {α : Type} {s : Strategy} {n : Nat} {item : Nat → Option α} {picked : List α}

/-- The positions that a strategy is for, in a sequence of `n` items. -/
def intended (s : Strategy) (n : Nat) : Finset Nat :=
  if n = 0 then ∅
  else
    match s with
    | first => {0}
    | firstLast => {0, n - 1}
    | firstMidLast => {0, n / 2, n - 1}
    | all => Finset.range n

/-- The number of items that a strategy takes of `n` items. -/
def count (s : Strategy) (n : Nat) : Nat :=
  match s with
  | first => min n 1
  | firstLast => min n 2
  | firstMidLast => min n 3
  | all => n

/-- What is picked of `n` items, where `item` gives the one at a position, is what stands at some
positions, in their order. -/
structure Picks (s : Strategy) (n : Nat) (item : Nat → Option α) (positions : List Nat)
    (picked : List α) : Prop where
  increasing : positions.Pairwise (· < ·)
  inside : ∀ i ∈ positions, i < n
  /-- The positions are those that the strategy is for, and no others. -/
  intended : positions.toFinset = s.intended n
  /-- There is an item at each position, and it is picked, be it equal to another one or not. -/
  taken : positions.map item = picked.map some
  length : picked.length = s.count n
  /-- The first item is among those that are picked, if there is one. -/
  head : picked.head? = item 0

theorem toFinset_positions (s : Strategy) (n : Nat) : (s.positions n).toFinset = s.intended n := by
  unfold positions intended
  by_cases hn : n = 0
  · rw [if_pos hn, if_pos hn]
    rfl
  · rw [if_neg hn, if_neg hn]
    ext i
    cases s <;> simp

/-- The intended positions are as many as a strategy takes items. -/
theorem card_intended (s : Strategy) (n : Nat) : (s.intended n).card = s.count n := by
  unfold intended
  by_cases hn : n = 0
  · subst hn
    cases s <;> rfl
  · rw [if_neg hn]
    cases s with
    | first =>
      show 1 = min n 1
      omega
    | firstLast =>
      by_cases hone : n = 1
      · subst hone
        rfl
      · have hlast : 0 ≠ n - 1 := by omega
        rw [Finset.card_pair hlast]
        show 2 = min n 2
        omega
    | firstMidLast =>
      by_cases hone : n = 1
      · subst hone
        rfl
      · by_cases htwo : n = 2
        · subst htwo
          rfl
        · have hmid : n / 2 ≠ n - 1 := by omega
          have hfirst : 0 ∉ ({n / 2, n - 1} : Finset Nat) := by
            rw [Finset.mem_insert, Finset.mem_singleton]
            omega
          rw [Finset.card_insert_of_notMem hfirst, Finset.card_pair hmid]
          show 3 = min n 3
          omega
    | all => exact Finset.card_range n

theorem length_positions (s : Strategy) (n : Nat) : (s.positions n).length = s.count n := by
  have hnodup : (s.positions n).Nodup := (s.positions_increasing n).imp Nat.ne_of_lt
  rw [← List.toFinset_card_of_nodup hnodup, toFinset_positions, card_intended]

theorem head?_positions (hn : n ≠ 0) : (s.positions n).head? = some 0 := by
  unfold positions
  rw [if_neg hn]
  cases s with
  | first => rfl
  | firstLast => simp [List.eraseDups_cons]
  | firstMidLast => simp [List.eraseDups_cons]
  | all =>
    obtain ⟨k, rfl⟩ := Nat.exists_eq_succ_of_ne_zero hn
    rw [List.range_succ_eq_map]
    rfl

/-- **The items at the listed positions** are a pick. -/
theorem picks_of_taken (hempty : n = 0 → item 0 = none)
    (htaken : (s.positions n).map item = picked.map some) :
    s.Picks n item (s.positions n) picked where
  increasing := s.positions_increasing n
  inside i hi := (s.mem_positions_iff.mp hi).1
  intended := s.toFinset_positions n
  taken := htaken
  length := by
    have hlength := congrArg List.length htaken
    rw [List.length_map, List.length_map] at hlength
    rw [← hlength, length_positions]
  head := by
    have hhead := congrArg List.head? htaken
    rw [List.head?_map, List.head?_map] at hhead
    by_cases hn : n = 0
    · subst hn
      rw [hempty rfl]
      cases picked with
      | nil => rfl
      | cons x rest => cases hhead
    · rw [head?_positions hn] at hhead
      cases picked with
      | nil => cases hhead
      | cons x rest => exact (Option.some.inj hhead).symm

/-- What is sampled of a list is a pick. -/
theorem picks_sample (s : Strategy) (items : List α) :
    s.Picks items.length (items[·]?) (s.positions items.length) (s.sample items) := by
  refine picks_of_taken (fun h => by simpa using h) ?_
  rw [sample_eq_positions, List.map_filterMap_some_eq_filter_map_isSome]
  refine (List.filter_eq_self.mpr fun x hx => ?_).symm
  obtain ⟨i, hi, rfl⟩ := List.mem_map.mp hx
  rw [List.getElem?_eq_getElem (s.mem_positions_iff.mp hi).1]
  rfl

end Strategy

namespace Value

/-- The item at a position of a range. -/
def rangeItem? (start stop step : Int) (i : Nat) : Option Value :=
  if i < rangeLength start stop step then some (int (start + step * i)) else none

/-- A value is a sequence of a number of items, and of certain items at its positions: it holds them
one after the other, or it is a range. -/
inductive IsSequence : Value → Nat → (Nat → Option Value) → Prop
  | holding {v : Value} {items : List Value} (h : v.elements? = some items) :
      IsSequence v items.length (items[·]?)
  | range (start stop step : Int) :
      IsSequence (range start stop step) (rangeLength start stop step)
        (rangeItem? start stop step)

section Sample

variable {m : Machine} {s : Strategy}

/-- What a strategy takes of a range: the numbers at the positions that are listed. -/
theorem sample_range (start stop step : Int) (hn : rangeLength start stop step ≠ 0) :
    (range start stop step).sample m (.strategy s)
      = (listPositions m s (rangeLength start stop step)).map fun positions =>
          positions.map fun i : Nat => int (start + step * i) := by
  have htruthy : (range start stop step).isTruthy = true := by simp [isTruthy, hn]
  rw [sample]
  show (if (range start stop step).isTruthy = true then _ else _) = _
  rw [if_pos htruthy]
  show (listPositions m s (rangeLength start stop step) >>= fun positions =>
    positions.mapM fun i => (range start stop step).elementAt i) = _
  cases listPositions m s (rangeLength start stop step) with
  | error f => rfl
  | ok positions => exact List.mapM_pure (m := Except Failure)

theorem sample_range_of_empty (start stop step : Int) (hn : rangeLength start stop step = 0) :
    (range start stop step).sample m (.strategy s) = .ok [] := by
  have hfalsy : ¬(range start stop step).isTruthy = true := by simp [isTruthy, hn]
  rw [sample]
  exact if_neg hfalsy

/-- **Sampling takes the intended positions**: of a sequence it picks the items at the positions
that the strategy is for, in order, on every machine, if the length can be counted and there is
memory for the positions should they be all. -/
theorem sample_takes_intended_positions {v : Value} {n : Nat} {item : Nat → Option Value}
    (hsequence : v.IsSequence n item) (hcounted : n ≤ maxLength)
    (hholds : s = .all → m.holds n = true) :
    ∃ positions picked, v.sample m (.strategy s) = .ok picked ∧
      s.Picks n item positions picked := by
  cases hsequence with
  | holding h => exact ⟨_, _, sample_of_elements h hcounted hholds, s.picks_sample _⟩
  | range start stop step =>
    by_cases hn : rangeLength start stop step = 0
    · refine ⟨_, _, sample_range_of_empty start stop step hn,
        Strategy.picks_of_taken (fun h => ?_) ?_⟩
      · rw [rangeItem?, h]
        rfl
      · rw [hn]
        rfl
    · have hsample := sample_range (m := m) (s := s) start stop step hn
      rw [listPositions_ok_iff.mpr ⟨hcounted, hholds, rfl⟩] at hsample
      refine ⟨_, _, hsample, Strategy.picks_of_taken (fun h => absurd h hn) ?_⟩
      rw [List.map_map]
      refine List.map_congr_left fun i hi => ?_
      rw [rangeItem?, if_pos (s.mem_positions_iff.mp hi).1]
      rfl

end Sample

/-- A sequence whose items are all equal. -/
def equalItems : List Value :=
  [null, null, null, null]

theorem sample_takes_intended_positions_of_equal_items :
    (list equalItems).IsSequence 4 (equalItems[·]?) ∧
    (range 2 11 2).IsSequence 5 (rangeItem? 2 11 2) ∧ 5 ≤ maxLength ∧
    Machine.boundless.holds 5 = true ∧
    (∃ picked, (list equalItems).sample .boundless (.strategy .firstMidLast) = .ok picked ∧
      picked.length = 3) ∧
    ∃ positions : List Nat, ∃ picked,
      (range 2 11 2).sample .boundless (.strategy .all) = .ok picked ∧
      positions.toFinset = {0, 1, 2, 3, 4} ∧
      positions.map (rangeItem? 2 11 2) = picked.map some := by
  have hlist : (list equalItems).IsSequence 4 (equalItems[·]?) :=
    @IsSequence.holding _ equalItems rfl
  have hrange : (range 2 11 2).IsSequence 5 (rangeItem? 2 11 2) := .range 2 11 2
  have hcounted : 5 ≤ maxLength := by decide
  obtain ⟨_, items, hitems, htakes⟩ := sample_takes_intended_positions (m := .boundless)
    (s := .firstMidLast) hlist (by decide) nofun
  obtain ⟨positions, picked, hpicked, hpicks⟩ := sample_takes_intended_positions
    (m := .boundless) (s := .all) hrange hcounted fun _ => rfl
  exact ⟨hlist, hrange, hcounted, rfl, ⟨items, hitems, htakes.length⟩, positions, picked, hpicked,
    hpicks.intended, hpicks.taken⟩

/-! ## What is not counted, and what there is no memory for

A range is told by its bounds, so it may have more items than are counted, and then none is taken.
Neither is any if all are asked for, and there are more than the machine has memory for. -/

/-- The shortest range with more items than are counted. -/
def uncountedRange : Value :=
  range 0 (maxLength + 1 : Nat) 1

/-- A machine with memory for less than a number of positions. -/
def machineBelow (bound : Nat) : Machine where
  holds n := n < bound
  inferring _ _ := none
  writing _ _ := none

theorem sample_fails_of_uncounted_range :
    uncountedRange.IsSequence (maxLength + 1) (rangeItem? 0 (maxLength + 1 : Nat) 1) ∧
    rangeItem? 0 (maxLength + 1 : Nat) 1 0 = some (int 0) ∧
    uncountedRange.sample .boundless (.strategy .first) = .error .longSequence ∧
    (range 0 1152921504606846976 1).sample (machineBelow 1152921504606846976) (.strategy .all)
      = .error .exhausted := by
  have hlength : rangeLength 0 (maxLength + 1 : Nat) 1 = maxLength + 1 := by decide +kernel
  have hlong : listPositions .boundless .first (maxLength + 1) = .error .longSequence :=
    if_pos (Nat.lt_succ_self maxLength)
  refine ⟨?_, ?_, ?_, ?_⟩
  · have hrange := IsSequence.range 0 (maxLength + 1 : Nat) 1
    rwa [hlength] at hrange
  · rw [rangeItem?, hlength]
    rfl
  · rw [uncountedRange, sample_range _ _ _ (by rw [hlength]; exact Nat.succ_ne_zero _), hlength,
      hlong]
    rfl
  · rfl

end Value

end ShapeInference
