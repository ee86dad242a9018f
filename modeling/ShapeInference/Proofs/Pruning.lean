import ShapeInference.Proofs.Outcome

/-!
# What sampling leaves out

A strategy looks at some elements of an array and never at the others, whatever these are. So a
value may be pruned first, at every depth, to what the strategy looks at, and be looked at as a
whole afterwards: nothing is lost but the indices in paths. Two runs are compared step by step,
where one of them may be at another place than the other.

- `Value.prune`: a value without the elements that a strategy does not look at;
- `Failure.unplaced`: a failure without the place where it happened;
- `Logged.Matches`: two runs that end alike, places aside, and report as many empty arrays;
- `Logged.Matches.bind`: runs that match, one after the other;
- `Value.matches_prune`: classification of a value matches the one of the pruned value;
- `Value.classification_of_pruned`: so both have the same outcome, and values that are pruned to the
  same value have one outcome.
-/

namespace ShapeInference

/-- A failure without the place in a value where it happened. -/
def Failure.unplaced : Failure → Failure
  | .unsupported className snapshot _ => .unsupported className snapshot []
  | f => f

/-- Whether an event reports an array without elements. -/
def Event.isEmptyArray : Event → Bool
  | .emptyArray _ => true
  | _ => false

/-! ## Runs that match -/

namespace Logged

variable {α β : Type} {run run' : Logged α}

/-- What a run ends with, wherever it happened. -/
def unplaced (run : Logged α) : Except Failure α :=
  run.outcome.mapError Failure.unplaced

/-- The number of arrays without elements that a run reports. -/
def emptyArrays (run : Logged α) : Nat :=
  run.events.countP Event.isEmptyArray

/-- Two runs match if they end with the same value or fail alike, places aside, and report as many
empty arrays. -/
structure Matches (run run' : Logged α) : Prop where
  ends : run.unplaced = run'.unplaced
  reports : run.emptyArrays = run'.emptyArrays

theorem unplaced_of_ok {a : α} (h : run.outcome = .ok a) : run.unplaced = .ok a := by
  unfold unplaced
  rw [h]
  rfl

theorem unplaced_of_error {f : Failure} (h : run.outcome = .error f) :
    run.unplaced = .error f.unplaced := by
  unfold unplaced
  rw [h]
  rfl

theorem unplaced_eq_ok_iff {a : α} : run.unplaced = .ok a ↔ run.outcome = .ok a := by
  unfold unplaced
  cases run.outcome <;> simp [Except.mapError]

theorem emptyArrays_bind_of_ok {a : α} (h : run.outcome = .ok a) (next : α → Logged β) :
    (run >>= next).emptyArrays = run.emptyArrays + (next a).emptyArrays := by
  show (run.andThen next).events.countP Event.isEmptyArray = _
  rw [andThen, h]
  exact List.countP_append

theorem emptyArrays_bind_of_error {f : Failure} (h : run.outcome = .error f)
    (next : α → Logged β) : (run >>= next).emptyArrays = run.emptyArrays := by
  show (run.andThen next).events.countP Event.isEmptyArray = _
  rw [andThen, h]
  rfl

namespace Matches

theorem refl (run : Logged α) : Matches run run :=
  ⟨rfl, rfl⟩

/-- **Runs that match, one after the other**: the second ones start from the same value, and where
the first ones fail nothing comes after them. -/
theorem bind {next next' : α → Logged β} (h : Matches run run')
    (hnext : ∀ a, Matches (next a) (next' a)) : Matches (run >>= next) (run' >>= next') := by
  obtain ⟨hends, hreports⟩ := h
  cases hrun : run.outcome with
  | ok a =>
    have hrun' : run'.outcome = .ok a := by
      rw [← unplaced_eq_ok_iff, ← hends]
      exact unplaced_of_ok hrun
    obtain ⟨hnextEnds, hnextReports⟩ := hnext a
    constructor
    · unfold unplaced at hnextEnds ⊢
      rw [outcome_bind_of_ok hrun, outcome_bind_of_ok hrun', hnextEnds]
    · rw [emptyArrays_bind_of_ok hrun, emptyArrays_bind_of_ok hrun', hreports, hnextReports]
  | error f =>
    rw [unplaced_of_error hrun] at hends
    cases hrun' : run'.outcome with
    | ok a =>
      rw [unplaced_of_ok hrun'] at hends
      cases hends
    | error f' =>
      rw [unplaced_of_error hrun'] at hends
      constructor
      · rw [unplaced_of_error (outcome_bind_of_error hrun next),
          unplaced_of_error (outcome_bind_of_error hrun' next')]
        exact congrArg Except.error (Except.error.inj hends)
      · rw [emptyArrays_bind_of_error hrun, emptyArrays_bind_of_error hrun', hreports]

/-- What is made of the values of runs that match. -/
theorem map (h : Matches run run') (f : α → β) :
    Matches (do let a ← run; return f a) (do let a ← run'; return f a) :=
  h.bind fun a => .refl (pure (f a))

end Matches

end Logged

namespace Value

open Logged

/-! ## Pruned values -/

mutual

/-- A value without the elements that a strategy does not look at: every list or tuple becomes the
list of its elements at the sampled positions, pruned in turn, as far as the walk goes. -/
def prune (s : Strategy) : Value → Value
  | list items => list (pruneItems s (s.positions items.length) 0 items)
  | tuple items => list (pruneItems s (s.positions items.length) 0 items)
  | dictionary entries => dictionary (pruneEntries s entries)
  | v => v

/-- The elements at the given positions among those from index `i` on, pruned. -/
def pruneItems (s : Strategy) (positions : List Nat) : Nat → List Value → List Value
  | _, [] => []
  | i, v :: rest =>
    if positions.contains i then prune s v :: pruneItems s positions (i + 1) rest
    else pruneItems s positions (i + 1) rest

/-- The entries of a dictionary with their values pruned. -/
def pruneEntries (s : Strategy) : List (Value × Value) → List (Value × Value)
  | [] => []
  | (key, v) :: rest => (key, prune s v) :: pruneEntries s rest

end

variable {s : Strategy}

theorem prune_of_items {v : Value} {items : List Value} (h : v.items? = some items) :
    v.prune s = list (pruneItems s (s.positions items.length) 0 items) := by
  rcases items?_eq_some_iff.mp h with rfl | rfl <;> rw [prune]

theorem prune_of_leaf {v : Value} (hitems : v.items? = none) (hentries : v.entries? = none) :
    v.prune s = v := by
  cases v with
  | list => simp [items?] at hitems
  | tuple => simp [items?] at hitems
  | dictionary => simp [entries?] at hentries
  | _ => rfl

/-- The first element of an array is always kept. -/
theorem isEmpty_pruneItems (items : List Value) :
    (pruneItems s (s.positions items.length) 0 items).isEmpty = items.isEmpty := by
  cases items with
  | nil => rfl
  | cons v rest =>
    have hfirst : 0 ∈ s.positions (v :: rest).length := by
      rw [Strategy.mem_positions_iff]
      refine ⟨by simp, ?_⟩
      cases s <;> rfl
    rw [pruneItems, if_pos (List.contains_iff_mem.mpr hfirst)]
    rfl

/-! ## Classifying a value and what is left of it -/

/-- The classification of a value matches the one of the pruned value, wherever both are. -/
def MatchesPruned (s : Strategy) (v : Value) : Prop :=
  ∀ path path', Matches (classifyAt s path v) (classifyAt .all path' (v.prune s))

/-- A failure at a value is the same elsewhere, but for the place. -/
theorem matches_refuse (v : Value) (path path' : Path) :
    Matches (v.refuse path) (v.refuse path') := by
  unfold refuse
  cases v.snapshot? with
  | none => exact .refl _
  | some t => exact ⟨rfl, rfl⟩

theorem matches_classifyLeaf (v : Value) (path path' : Path) :
    Matches (classifyLeaf v path) (classifyLeaf v path') := by
  unfold classifyLeaf
  cases hkind : v.kind? with
  | none => exact matches_refuse v path path'
  | some k =>
    cases k with
    | simple p => exact .refl _
    | named => exact .refl _
    | array => exact matches_refuse v path path'
    | object => exact matches_refuse v path path'

/-- Two arrays are reported or not reported together if both or neither have elements. -/
theorem matches_reportEmpty {items items' : List Value} (h : items'.isEmpty = items.isEmpty)
    (path path' : Path) : Matches (reportEmpty items path) (reportEmpty items' path') := by
  unfold reportEmpty
  rw [h]
  by_cases hempty : items.isEmpty
  · rw [if_pos hempty, if_pos hempty]
    exact ⟨rfl, rfl⟩
  · rw [if_neg hempty, if_neg hempty]
    exact .refl _

/-- The run along the elements of an array, and the run along those of them that are left. -/
theorem matches_classifyItems {length length' i i' : Nat} {path path' : Path} {items : List Value}
    (hlength : i + items.length = length) (ih : ∀ v ∈ items, MatchesPruned s v) :
    Matches (classifyItems s path length i items)
      (classifyItems .all path' length' i' (pruneItems s (s.positions length) i items)) := by
  -- the index of an element in the pruned array falls behind its index in the array
  induction items generalizing i i' with
  | nil =>
    rw [pruneItems, classifyItems, classifyItems]
    exact .refl _
  | cons v rest ihRest =>
    obtain ⟨hv, hrest⟩ := List.forall_mem_cons.mp ih
    have hnext : i + 1 + rest.length = length := by
      rw [← hlength, List.length_cons]
      omega
    have hi : i < length := by
      rw [← hlength, List.length_cons]
      omega
    rw [pruneItems, classifyItems, Strategy.contains_positions hi]
    by_cases hpicks : s.picks length i
    · have hall : Strategy.all.picks length' i' = true := rfl
      rw [if_pos hpicks, if_pos hpicks, classifyItems, if_pos hall]
      exact (hv _ _).bind fun shape => (ihRest hnext hrest).map (shape :: ·)
    · rw [if_neg hpicks, if_neg hpicks]
      exact ihRest hnext hrest

/-- The run along the entries of a dictionary, and the run along them with pruned values. -/
theorem matches_classifyEntries {path path' : Path} {entries : List (Value × Value)}
    (ih : ∀ key v, (key, v) ∈ entries → MatchesPruned s v) :
    Matches (classifyEntries s path entries)
      (classifyEntries .all path' (pruneEntries s entries)) := by
  induction entries with
  | nil =>
    rw [pruneEntries, classifyEntries, classifyEntries]
    exact .refl _
  | cons entry rest ihRest =>
    obtain ⟨key, v⟩ := entry
    obtain ⟨hv, hrest⟩ := Entries.forall_mem_cons.mp ih
    rw [pruneEntries, classifyEntries, classifyEntries]
    refine (Matches.refl key.spellKey).bind fun name => ?_
    exact (hv _ _).bind fun shape => (ihRest hrest).map ((name, shape) :: ·)

/-- **Classification does not see** what pruning takes away. -/
theorem matches_prune (v : Value) : MatchesPruned s v := by
  induction v using walk_induction with
  | array v items hitems ih =>
    intro path path'
    have hreport := matches_reportEmpty (isEmpty_pruneItems (s := s) items) path path'
    have hitemsRun : ∀ length', Matches (classifyItems s path items.length 0 items)
        (classifyItems .all path' length' 0
          (pruneItems s (s.positions items.length) 0 items)) :=
      fun length' => matches_classifyItems (Nat.zero_add _) ih
    rw [prune_of_items hitems]
    rcases items?_eq_some_iff.mp hitems with rfl | rfl <;>
    · rw [classifyAt, classifyAt]
      exact hreport.bind fun _ => (hitemsRun _).map _
  | object v entries hentries ih =>
    intro path path'
    obtain rfl := entries?_eq_some_iff.mp hentries
    rw [prune, classifyAt, classifyAt]
    exact (matches_classifyEntries ih).map _
  | leaf v hitems hentries =>
    intro path path'
    rw [prune_of_leaf hitems hentries, classifyAt_of_leaf hitems hentries,
      classifyAt_of_leaf hitems hentries]
    exact matches_classifyLeaf v path path'

/-- **Sampling is looking at all of a pruned value**: both classifications return the same shape or
fail alike, with the same class and snapshot where a value cannot be classified, and report as many
empty arrays. So values that differ only in what a strategy leaves out have one outcome. -/
theorem classification_of_pruned (s : Strategy) (v : Value) :
    (v.classify s).unplaced = ((v.prune s).classify .all).unplaced ∧
    (v.classify s).emptyArrays = ((v.prune s).classify .all).emptyArrays ∧
    ∀ w : Value, w.prune s = v.prune s →
      (w.classify s).unplaced = (v.classify s).unplaced ∧
      (w.classify s).emptyArrays = (v.classify s).emptyArrays := by
  have hmatches : ∀ v : Value, Matches (v.classify s) ((v.prune s).classify .all) :=
    fun v => matches_prune v [] []
  refine ⟨(hmatches v).ends, (hmatches v).reports, fun w hw => ?_⟩
  constructor
  · rw [(hmatches w).ends, hw, (hmatches v).ends]
  · rw [(hmatches w).reports, hw, (hmatches v).reports]

/-- A dictionary with a tuple that has a middle, and with what cannot be classified at its end. -/
def withMiddle (middle : List Value) (last : Value) : Value :=
  dictionary [
    (null, tuple ([list []] ++ middle ++ [dictionary [(text "a", list [null, undefined])]])),
    (text "b", list [bool true, last])]

theorem classification_of_pruned_middle :
    (withMiddle [set false [], list []] (bytes false [])).prune .firstLast
      = (withMiddle [int 1] (bytes false [])).prune .firstLast ∧
    ((withMiddle [set false [], list []] (bytes false [])).classify .firstLast).unplaced
      = .error (.unsupported "bytes" "b''" []) ∧
    ((withMiddle [int 1] (bytes false [])).classify .firstLast).emptyArrays = 1 ∧
    ((withMiddle [set false [], list []] (bytes false [])).classify .firstLast).emptyArrays = 1 := by
  have hprune : (withMiddle [set false [], list []] (bytes false [])).prune .firstLast
      = (withMiddle [int 1] (bytes false [])).prune .firstLast := rfl
  obtain ⟨-, -, hsame⟩ := classification_of_pruned .firstLast (withMiddle [int 1] (bytes false []))
  obtain ⟨hends, hreports⟩ := hsame _ hprune
  exact ⟨hprune, hends.trans rfl, rfl, hreports.trans rfl⟩

end Value

end ShapeInference
