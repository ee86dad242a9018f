import ShapeInference.Proofs.Textual

/-!
# Strategies that look at more

Of two strategies the later one in the order from the fewest elements to the most looks at
everything that the earlier one looks at, at every depth. So it may fail where the earlier one does
not, but what it infers has every alternative that the earlier one finds.

- `Strategy.isBefore`: the order of strategies;
- `Strategy.mem_sampleFrom_of_isBefore`: what is looked at grows along this order;
- `Value.absorbs_shapeOf_of_isBefore`: the shape of a value absorbs the shapes that earlier
  strategies give it;
- `Value.sampling_more_infers_no_less`: the same of what classification returns.
-/

namespace ShapeInference

/-! ## The order of strategies -/

namespace Strategy

variable {α : Type} {s s' : Strategy}

/-- Whether a strategy comes before another, from the fewest elements to the most. -/
def isBefore (s s' : Strategy) : Bool :=
  decide (every.idxOf s < every.idxOf s')

/-- A strategy comes before `all`, after `first`, or is the one between those two. -/
theorem isBefore_cases (h : s.isBefore s' = true) :
    s' = all ∨ s = first ∨ s = firstLast ∧ s' = firstMidLast := by
  revert h
  cases s <;> cases s' <;> decide

/-- A position that a strategy picks is picked by those after it. -/
theorem picks_of_isBefore (h : s.isBefore s' = true) {length i : Nat}
    (hi : s.picks length i = true) : s'.picks length i = true := by
  rcases isBefore_cases h with rfl | rfl | ⟨rfl, rfl⟩
  · rfl
  · -- all strategies begin with the first element
    have hzero : i = 0 := of_decide_eq_true hi
    cases s' <;> simp [picks, hzero]
  · simp only [picks, Bool.or_eq_true, decide_eq_true_eq] at hi ⊢
    omega

/-- **What is looked at grows** with the strategy. -/
theorem mem_sampleFrom_of_isBefore (h : s.isBefore s' = true) {length : Nat} {x : α} :
    ∀ {i : Nat} {items : List α}, x ∈ s.sampleFrom length i items →
      x ∈ s'.sampleFrom length i items
  | i, y :: rest, hx => by
    rw [sampleFrom] at hx
    rw [sampleFrom]
    by_cases hi : s.picks length i
    · rw [if_pos hi] at hx
      rw [if_pos (picks_of_isBefore h hi)]
      rcases List.mem_cons.mp hx with rfl | hx
      · exact List.mem_cons_self
      · exact List.mem_cons_of_mem _ (mem_sampleFrom_of_isBefore h hx)
    · rw [if_neg hi] at hx
      have hrest := mem_sampleFrom_of_isBefore h hx
      split
      · exact List.mem_cons_of_mem _ hrest
      · exact hrest

end Strategy

namespace Value

open Entries

variable {s s' : Strategy}

/-! ## Looking at less -/

/-- What can be classified can be when less is looked at. -/
theorem isCovered_of_isBefore (h : s.isBefore s' = true) {v : Value}
    (hv : v.isCovered s' = true) : v.isCovered s = true := by
  induction v using walk_induction with
  | array v items hitems ih =>
    rw [isCovered_of_items hitems] at hv ⊢
    intro w hw
    exact ih w (Strategy.mem_of_mem_sampleFrom hw)
      (hv w (Strategy.mem_sampleFrom_of_isBefore h hw))
  | object v entries hentries ih =>
    rw [isCovered_of_entries hentries] at hv ⊢
    intro key w hw
    obtain ⟨hkey, hcovered⟩ := hv key w hw
    exact ⟨hkey, ih key w hw hcovered⟩
  | leaf v hitems hentries =>
    rw [isCovered_of_leaf hitems hentries] at hv ⊢
    exact hv

/-- The member for a name is the shape of the last value whose key is spelled so. -/
theorem last?_memberShapes (s : Strategy) (name : Text) (entries : List (Value × Value)) :
    last? (· = ·) name (entries.map fun entry => (memberName entry.1, shapeOf s entry.2))
      = (last? (· = ·) name (namedEntries entries)).map (shapeOf s) := by
  rw [← last?_map (fun _ => shapeOf s) name (namedEntries entries), namedEntries, List.map_map]
  rfl

/-- **The shape of a value absorbs** the shape that an earlier strategy gives it. -/
theorem absorbs_shapeOf_of_isBefore (h : s.isBefore s' = true) (v : Value) :
    (shapeOf s' v).Absorbs (shapeOf s v) := by
  induction v using walk_induction with
  | array v items hitems ih =>
    have hdistinct : ∀ s : Strategy, ∀ t ∈ (s.sample items).map (shapeOf s),
        t.isDistinct = true := by
      intro s t ht
      obtain ⟨w, -, rfl⟩ := List.mem_map.mp ht
      exact isDistinct_shapeOf w
    rw [shapeOf_of_items hitems, shapeOf_of_items hitems, Shape.absorbs_arrayOf_iff]
    refine ⟨_, rfl, .fold (hdistinct s') (hdistinct s) fun t ht => ?_⟩
    -- a sampled element is sampled by the later strategy too, with a shape that absorbs
    obtain ⟨w, hw, rfl⟩ := List.mem_map.mp ht
    exact ⟨shapeOf s' w, List.mem_map_of_mem (Strategy.mem_sampleFrom_of_isBefore h hw),
      ih w (Strategy.mem_of_mem_sampleFrom hw)⟩
  | object v entries hentries ih =>
    have hmember : ∀ name, (shapeOf s' v).member? name
        = (last? (· = ·) name (namedEntries entries)).map (shapeOf s') := by
      intro name
      rw [Shape.member?_eq_last? (isDistinct_shapeOf v), members_shapeOf, hentries,
        Option.map_some, Option.bind_some, last?_collapse, last?_memberShapes]
    rw [shapeOf_of_entries (s := s) hentries, Shape.absorbs_objectOf_iff (isDistinct_shapeOf v)]
    simp only [hmember, last?_collapse, last?_memberShapes]
    refine ⟨?_, fun name x hx => ?_, fun name y hy hnone => ?_⟩
    · rw [members_shapeOf, hentries]
      rfl
    · obtain ⟨w, hw, rfl⟩ := Option.map_eq_some_iff.mp hx
      obtain ⟨entry, hentry, heq⟩ := List.mem_map.mp (mem_of_last? hw)
      obtain ⟨-, rfl⟩ := Prod.mk.inj heq
      exact ⟨shapeOf s' entry.2, by rw [hw, Option.map_some], ih entry.1 entry.2 hentry⟩
    · -- both shapes have the same names
      rw [Option.map_eq_none_iff] at hnone
      rw [hnone] at hy
      cases hy
  | leaf v hitems hentries =>
    rw [shapeOf_of_leaf hitems hentries, ← shapeOf_of_leaf (s := s) hitems hentries]
    exact Shape.merge_self (isDistinct_shapeOf v)

/-- **Sampling more infers no less**: where classification returns with a strategy, it returns with
every earlier one, and merging that result adds nothing, neither an alternative nor a name, and
moves no member. -/
theorem sampling_more_infers_no_less (h : s.isBefore s' = true) {v : Value} {t' : Shape}
    (ht' : (v.classify s').outcome = .ok t') :
    ∃ t, (v.classify s).outcome = .ok t ∧ t'.merge t = t' := by
  obtain ⟨hcovered, rfl⟩ := classify_ok_iff.mp ht'
  exact ⟨shapeOf s v, classify_ok_iff.mpr ⟨isCovered_of_isBefore h hcovered, rfl⟩,
    absorbs_shapeOf_of_isBefore h v⟩

/-- Arrays of objects in an object, with keys that are spelled alike. -/
def arraysInObject : Value :=
  dictionary [
    (null, list [dictionary [(text "a", null), (text "b", int 1)], list [],
      dictionary [(text "b", bool true)]]),
    (text "c", tuple [text "t", undefined, list [int 1, text "u", null]]),
    (text "None", list [dictionary [(text "a", null)], list [int 1, text "u", null], int 2,
      dictionary [(text "b", bool true)]])]

/-- What is inferred for them from the first and the last element of every array. -/
def shapeOfEnds : Shape :=
  .objectOf [
    ("None", .arrayOf (.objectOf [("a", .optional (.simple .null)),
      ("b", .optional (.simple .boolean))])),
    ("c", .arrayOf (.merge (.simple .string)
      (.arrayOf (.merge (.simple .number) (.simple .null)))))]

/-- What is inferred for them when the element in the middle is looked at too. -/
def shapeOfEndsAndMiddle : Shape :=
  .objectOf [
    ("None", .arrayOf (.merge (.simple .number) (.objectOf [("a", .optional (.simple .null)),
      ("b", .optional (.simple .boolean))]))),
    ("c", .arrayOf (.merge (.merge (.simple .string) (.simple .undefined))
      (.arrayOf (.merge (.merge (.simple .number) (.simple .string)) (.simple .null)))))]

theorem sampling_more_infers_no_less_of_arrays_in_object :
    Strategy.firstLast.isBefore .firstMidLast = true ∧
    (arraysInObject.classify .firstMidLast).outcome = .ok shapeOfEndsAndMiddle ∧
    (arraysInObject.classify .firstLast).outcome = .ok shapeOfEnds ∧
    shapeOfEndsAndMiddle.merge shapeOfEnds = shapeOfEndsAndMiddle := by
  have hmore : (arraysInObject.classify .firstMidLast).outcome = .ok shapeOfEndsAndMiddle := rfl
  obtain ⟨t, ht, hmerge⟩ := sampling_more_infers_no_less (s := .firstLast) (by decide) hmore
  have hless : (arraysInObject.classify .firstLast).outcome = .ok shapeOfEnds := rfl
  obtain rfl : t = shapeOfEnds := Except.ok.inj (ht.symm.trans hless)
  exact ⟨by decide, hmore, hless, hmerge⟩

end Value

end ShapeInference
