import ShapeInference.Inference.Classification
import ShapeInference.Proofs.Distinct
import ShapeInference.Proofs.Sampling

/-!
# What classification ends with

A classification reports on its way and may stop; what it ends with does not depend on the path at
which it began. Whether it returns is told by `Value.isCovered` and the shape by `Value.shapeOf`,
both without events and paths.

- `Value.items?`, `Value.entries?`: what the walk goes into;
- `Value.walk_induction`: induction along the walk;
- `Value.isCovered`: whether everything that is looked at can be classified;
- `Value.shapeOf`: the shape of such a value;
- `Value.classify_ok_iff`: classification returns exactly then, and returns that shape;
- `Value.element_shapeOf`, `Value.members_shapeOf`: the parts of that shape.
-/

namespace ShapeInference

/-! ## Runs -/

namespace Logged

variable {α β : Type}

@[simp] theorem outcome_pure (a : α) : (pure a : Logged α).outcome = .ok a := rfl

/-- A run in two steps returns if both do. -/
theorem bind_ok_iff {run : Logged α} {next : α → Logged β} {b : β} :
    (run >>= next).outcome = .ok b ↔
      ∃ a, run.outcome = .ok a ∧ (next a).outcome = .ok b := by
  show (run.andThen next).outcome = .ok b ↔ _
  unfold andThen
  cases run.outcome <;> simp

theorem outcome_bind_of_ok {run : Logged α} {a : α} (h : run.outcome = .ok a)
    (next : α → Logged β) : (run >>= next).outcome = (next a).outcome := by
  show (run.andThen next).outcome = _
  rw [andThen, h]

theorem outcome_bind_of_error {run : Logged α} {f : Failure} (h : run.outcome = .error f)
    (next : α → Logged β) : (run >>= next).outcome = .error f := by
  show (run.andThen next).outcome = _
  rw [andThen, h]

theorem events_bind_of_ok {run : Logged α} {a : α} (h : run.outcome = .ok a)
    (next : α → Logged β) : (run >>= next).events = run.events ++ (next a).events := by
  show (run.andThen next).events = _
  rw [andThen, h]

theorem events_bind_of_error {run : Logged α} {f : Failure} (h : run.outcome = .error f)
    (next : α → Logged β) : (run >>= next).events = run.events := by
  show (run.andThen next).events = _
  rw [andThen, h]

end Logged

namespace Value

open Entries

/-! ## The parts of a value -/

/-- The items of the list or tuple that a value is. -/
def items? : Value → Option (List Value)
  | list items => some items
  | tuple items => some items
  | _ => none

/-- The entries of the dictionary that a value is. -/
def entries? : Value → Option (List (Value × Value))
  | dictionary entries => some entries
  | _ => none

theorem items?_eq_some_iff {v : Value} {items : List Value} :
    v.items? = some items ↔ v = list items ∨ v = tuple items := by
  cases v <;> simp [items?]

theorem entries?_eq_some_iff {v : Value} {entries : List (Value × Value)} :
    v.entries? = some entries ↔ v = dictionary entries := by
  cases v <;> simp [entries?]

theorem sizeOf_item_lt {v w : Value} {items : List Value} (h : v.items? = some items)
    (hw : w ∈ items) : sizeOf w < sizeOf v := by
  have hlt := List.sizeOf_lt_of_mem hw
  rcases items?_eq_some_iff.mp h with rfl | rfl
  · rw [list.sizeOf_spec]
    omega
  · rw [tuple.sizeOf_spec]
    omega

theorem sizeOf_entry_lt {v key w : Value} {entries : List (Value × Value)}
    (h : v.entries? = some entries) (hw : (key, w) ∈ entries) : sizeOf w < sizeOf v := by
  have hlt := List.sizeOf_lt_of_mem hw
  obtain rfl := entries?_eq_some_iff.mp h
  rw [dictionary.sizeOf_spec]
  rw [Prod.mk.sizeOf_spec] at hlt
  omega

/-- Induction along the walk: into lists, tuples and dictionaries, and no further. -/
@[elab_as_elim] theorem walk_induction {motive : Value → Prop}
    (array : ∀ v items, v.items? = some items → (∀ w ∈ items, motive w) → motive v)
    (object : ∀ v entries, v.entries? = some entries →
      (∀ key w, (key, w) ∈ entries → motive w) → motive v)
    (leaf : ∀ v, v.items? = none → v.entries? = none → motive v) (v : Value) : motive v :=
  match hitems : v.items?, hentries : v.entries? with
  | some items, _ => array v items hitems fun w hw =>
      have := sizeOf_item_lt hitems hw
      walk_induction array object leaf w
  | none, some entries => object v entries hentries fun _ w hw =>
      have := sizeOf_entry_lt hentries hw
      walk_induction array object leaf w
  | none, none => leaf v hitems hentries
termination_by sizeOf v

/-! ## Whether classification returns, and what -/

mutual

/-- Whether everything that is looked at can be classified: it has a kind, and keys can be
spelled. -/
def isCovered (s : Strategy) : Value → Bool
  | list items => areCovered s items.length 0 items
  | tuple items => areCovered s items.length 0 items
  | dictionary entries => areEntriesCovered s entries
  | v => v.kind?.isSome

/-- Whether this holds of the sampled elements among those from index `i` on. -/
def areCovered (s : Strategy) (length : Nat) : Nat → List Value → Bool
  | _, [] => true
  | i, v :: rest =>
    (!s.picks length i || isCovered s v) && areCovered s length (i + 1) rest

/-- Whether this holds of the entries of a dictionary. -/
def areEntriesCovered (s : Strategy) : List (Value × Value) → Bool
  | [] => true
  | (key, v) :: rest => key.spell?.isSome && isCovered s v && areEntriesCovered s rest

end

/-- The name of the member for a key that can be spelled. -/
def memberName (key : Value) : Text :=
  key.spell?.getD []

/-- The shape of a value whose parts are not looked at. -/
def leafShape (v : Value) : Shape :=
  match v.kind? with
  | some (.simple p) => .simple p
  | some .named => .named v.classOf.name
  | _ => .empty

mutual

/-- The shape of a value that can be classified. -/
def shapeOf (s : Strategy) : Value → Shape
  | list items => .arrayOf (.fold ((shapesOf s items.length 0 items).map some))
  | tuple items => .arrayOf (.fold ((shapesOf s items.length 0 items).map some))
  | dictionary entries => .objectOf (collapse (· = ·) (memberShapesOf s entries))
  | v => leafShape v

/-- The shapes of the sampled elements among those from index `i` on. -/
def shapesOf (s : Strategy) (length : Nat) : Nat → List Value → List Shape
  | _, [] => []
  | i, v :: rest =>
    if s.picks length i then shapeOf s v :: shapesOf s length (i + 1) rest
    else shapesOf s length (i + 1) rest

/-- The names and shapes of the entries of a dictionary. -/
def memberShapesOf (s : Strategy) : List (Value × Value) → List (Text × Shape)
  | [] => []
  | (key, v) :: rest => (memberName key, shapeOf s v) :: memberShapesOf s rest

end

variable {s : Strategy}

theorem areCovered_iff {length : Nat} : ∀ {i : Nat} {items : List Value},
    areCovered s length i items = true ↔
      ∀ w ∈ s.sampleFrom length i items, w.isCovered s = true
  | _, [] => by simp [areCovered, Strategy.sampleFrom]
  | i, v :: rest => by
    rw [areCovered, Bool.and_eq_true, areCovered_iff, Strategy.sampleFrom]
    by_cases hi : s.picks length i <;> simp [hi]

theorem areEntriesCovered_iff : ∀ {entries : List (Value × Value)},
    areEntriesCovered s entries = true ↔
      ∀ key w, (key, w) ∈ entries → key.spell?.isSome ∧ w.isCovered s = true
  | [] => by simp [areEntriesCovered]
  | (key, v) :: rest => by
    rw [areEntriesCovered, Bool.and_eq_true, Bool.and_eq_true, areEntriesCovered_iff,
      Entries.forall_mem_cons]

theorem shapesOf_eq (s : Strategy) (length : Nat) : ∀ (i : Nat) (items : List Value),
    shapesOf s length i items = (s.sampleFrom length i items).map (shapeOf s)
  | _, [] => by rw [shapesOf]; rfl
  | i, v :: rest => by
    rw [shapesOf, shapesOf_eq s length (i + 1) rest, Strategy.sampleFrom]
    split <;> rfl

theorem memberShapesOf_eq (s : Strategy) : ∀ entries : List (Value × Value),
    memberShapesOf s entries = entries.map fun entry => (memberName entry.1, shapeOf s entry.2)
  | [] => by rw [memberShapesOf]; rfl
  | (key, v) :: rest => by rw [memberShapesOf, memberShapesOf_eq s rest]; rfl

section Parts

variable {v : Value} {items : List Value} {entries : List (Value × Value)}

theorem isCovered_of_items (h : v.items? = some items) :
    v.isCovered s = true ↔ ∀ w ∈ s.sample items, w.isCovered s = true := by
  rcases items?_eq_some_iff.mp h with rfl | rfl <;> rw [isCovered, areCovered_iff] <;> rfl

theorem isCovered_of_entries (h : v.entries? = some entries) :
    v.isCovered s = true ↔
      ∀ key w, (key, w) ∈ entries → key.spell?.isSome ∧ w.isCovered s = true := by
  obtain rfl := entries?_eq_some_iff.mp h
  rw [isCovered, areEntriesCovered_iff]

theorem isCovered_of_leaf (hitems : v.items? = none) (hentries : v.entries? = none) :
    v.isCovered s = v.kind?.isSome := by
  cases v with
  | list => simp [items?] at hitems
  | tuple => simp [items?] at hitems
  | dictionary => simp [entries?] at hentries
  | _ => rfl

theorem shapeOf_of_items (h : v.items? = some items) :
    shapeOf s v = .arrayOf (.fold (((s.sample items).map (shapeOf s)).map some)) := by
  rcases items?_eq_some_iff.mp h with rfl | rfl <;> rw [shapeOf, shapesOf_eq] <;> rfl

theorem shapeOf_of_entries (h : v.entries? = some entries) :
    shapeOf s v = .objectOf (collapse (· = ·)
      (entries.map fun entry => (memberName entry.1, shapeOf s entry.2))) := by
  obtain rfl := entries?_eq_some_iff.mp h
  rw [shapeOf, memberShapesOf_eq]

theorem shapeOf_of_leaf (hitems : v.items? = none) (hentries : v.entries? = none) :
    shapeOf s v = leafShape v := by
  cases v with
  | list => simp [items?] at hitems
  | tuple => simp [items?] at hitems
  | dictionary => simp [entries?] at hentries
  | _ => rfl

/-! ## The run of a classification -/

theorem classifyAt_of_leaf (hitems : v.items? = none) (hentries : v.entries? = none)
    (path : Path) : classifyAt s path v = classifyLeaf v path := by
  cases v with
  | list => simp [items?] at hitems
  | tuple => simp [items?] at hitems
  | dictionary => simp [entries?] at hentries
  | _ => rfl

end Parts

/-- A value that is not looked into is no array and no object. -/
theorem kind?_of_leaf {v : Value} (hitems : v.items? = none) (hentries : v.entries? = none) :
    v.kind? = none ∨ v.kind? = some .named ∨ ∃ p, v.kind? = some (.simple p) := by
  cases v with
  | list => simp [items?] at hitems
  | tuple => simp [items?] at hitems
  | dictionary => simp [entries?] at hentries
  | _ => simp [kind?, Classical.em]

theorem refuse_ne_ok (v : Value) (path : Path) (t : Shape) :
    (v.refuse path).outcome ≠ .ok t := by
  unfold refuse
  split <;> simp [Logged.fail]

theorem reportEmpty_ok (items : List Value) (path : Path) :
    (reportEmpty items path).outcome = .ok () := by
  unfold reportEmpty
  split <;> rfl

theorem classifyLeaf_ok_iff {v : Value} (hitems : v.items? = none) (hentries : v.entries? = none)
    {path : Path} {t : Shape} :
    (classifyLeaf v path).outcome = .ok t ↔ v.kind?.isSome ∧ t = leafShape v := by
  unfold classifyLeaf leafShape
  rcases kind?_of_leaf hitems hentries with h | h | ⟨p, h⟩
  · simp [h, refuse_ne_ok]
  · simp [h, Logged.done, eq_comm]
  · simp [h, Logged.done, eq_comm]

theorem spellKey_ok_iff {key : Value} {name : Text} :
    key.spellKey.outcome = .ok name ↔ key.spell?.isSome ∧ name = memberName key := by
  unfold spellKey memberName
  cases key.spell? <;> simp [Logged.done, Logged.fail, eq_comm]

/-- What the run of a classification ends with, wherever it began. -/
def EndsWithShape (s : Strategy) (v : Value) : Prop :=
  ∀ path t, (classifyAt s path v).outcome = .ok t ↔ v.isCovered s = true ∧ t = shapeOf s v

/-- The run along the elements of an array, from what the runs of the elements end with. -/
theorem classifyItems_ok_iff {length i : Nat} {path : Path} {items : List Value}
    (h : ∀ w ∈ items, EndsWithShape s w) {shapes : List Shape} :
    (classifyItems s path length i items).outcome = .ok shapes ↔
      areCovered s length i items = true ∧ shapes = shapesOf s length i items := by
  induction items generalizing i shapes with
  | nil =>
    rw [classifyItems, areCovered, shapesOf, Logged.outcome_pure, Except.ok.injEq, @eq_comm _ []]
    exact (and_iff_right rfl).symm
  | cons v rest ih =>
    obtain ⟨hv, hrest⟩ := List.forall_mem_cons.mp h
    rw [classifyItems, areCovered, shapesOf]
    by_cases hi : s.picks length i
    · simp only [hi, if_true, Logged.bind_ok_iff, hv _ _, ih hrest, Logged.outcome_pure,
        Except.ok.injEq, Bool.not_true, Bool.false_or, Bool.and_eq_true]
      constructor
      · rintro ⟨t, ⟨hcovered, rfl⟩, ts, ⟨hall, rfl⟩, rfl⟩
        exact ⟨⟨hcovered, hall⟩, rfl⟩
      · rintro ⟨⟨hcovered, hall⟩, rfl⟩
        exact ⟨_, ⟨hcovered, rfl⟩, _, ⟨hall, rfl⟩, rfl⟩
    · simp [hi, ih hrest]

/-- The run along the entries of a dictionary, from what the runs of the values end with. -/
theorem classifyEntries_ok_iff {path : Path} {entries : List (Value × Value)}
    (h : ∀ key w, (key, w) ∈ entries → EndsWithShape s w) {members : List (Text × Shape)} :
    (classifyEntries s path entries).outcome = .ok members ↔
      areEntriesCovered s entries = true ∧ members = memberShapesOf s entries := by
  induction entries generalizing members with
  | nil =>
    rw [classifyEntries, areEntriesCovered, memberShapesOf, Logged.outcome_pure, Except.ok.injEq,
      @eq_comm _ []]
    exact (and_iff_right rfl).symm
  | cons entry rest ih =>
    obtain ⟨key, v⟩ := entry
    obtain ⟨hv, hrest⟩ := Entries.forall_mem_cons.mp h
    rw [classifyEntries, areEntriesCovered, memberShapesOf]
    simp only [Logged.bind_ok_iff, spellKey_ok_iff, hv _ _, ih hrest, Logged.outcome_pure,
      Except.ok.injEq, Bool.and_eq_true]
    constructor
    · rintro ⟨name, ⟨hkey, rfl⟩, t, ⟨hcovered, rfl⟩, ms, ⟨hall, rfl⟩, rfl⟩
      exact ⟨⟨⟨hkey, hcovered⟩, hall⟩, rfl⟩
    · rintro ⟨⟨⟨hkey, hcovered⟩, hall⟩, rfl⟩
      exact ⟨_, ⟨hkey, rfl⟩, _, ⟨hcovered, rfl⟩, _, ⟨hall, rfl⟩, rfl⟩

/-- **Classification returns** exactly for values that are covered, with their shape, wherever it
began. -/
theorem classifyAt_ends (v : Value) : EndsWithShape s v := by
  induction v using walk_induction with
  | array v items h ih =>
    intro path t
    rcases items?_eq_some_iff.mp h with rfl | rfl <;>
    · rw [classifyAt, isCovered, shapeOf]
      simp only [Logged.bind_ok_iff, reportEmpty_ok, classifyItems_ok_iff ih,
        Logged.outcome_pure, Except.ok.injEq]
      constructor
      · rintro ⟨_, -, ts, ⟨hall, rfl⟩, rfl⟩
        exact ⟨hall, rfl⟩
      · rintro ⟨hall, rfl⟩
        exact ⟨(), trivial, _, ⟨hall, rfl⟩, rfl⟩
  | object v entries h ih =>
    intro path t
    obtain rfl := entries?_eq_some_iff.mp h
    rw [classifyAt, isCovered, shapeOf]
    simp only [Logged.bind_ok_iff, classifyEntries_ok_iff ih, Logged.outcome_pure,
      Except.ok.injEq]
    constructor
    · rintro ⟨ms, ⟨hall, rfl⟩, rfl⟩
      exact ⟨hall, rfl⟩
    · rintro ⟨hall, rfl⟩
      exact ⟨_, ⟨hall, rfl⟩, rfl⟩
  | leaf v hitems hentries =>
    intro path t
    rw [classifyAt_of_leaf hitems hentries, isCovered_of_leaf hitems hentries,
      shapeOf_of_leaf hitems hentries, classifyLeaf_ok_iff hitems hentries]

theorem classify_ok_iff {v : Value} {t : Shape} :
    (v.classify s).outcome = .ok t ↔ v.isCovered s = true ∧ t = shapeOf s v :=
  classifyAt_ends v [] t

/-! ## The parts of the shape of a value -/

/-- The element of the shape of an array is the union over what is sampled. -/
theorem element_shapeOf (v : Value) : (shapeOf s v).element =
    v.items?.map fun items => .fold (((s.sample items).map (shapeOf s)).map some) := by
  induction v using walk_induction with
  | array v items h =>
    rw [shapeOf_of_items h, h]
    rfl
  | object v entries h =>
    obtain rfl := entries?_eq_some_iff.mp h
    rfl
  | leaf v hitems hentries =>
    rw [shapeOf_of_leaf hitems hentries, hitems, leafShape]
    split <;> rfl

/-- The members of the shape of a dictionary, where keys with one spelling share a member. -/
theorem members_shapeOf (v : Value) : (shapeOf s v).members =
    v.entries?.map fun entries => collapse (· = ·)
      (entries.map fun entry => (memberName entry.1, shapeOf s entry.2)) := by
  induction v using walk_induction with
  | array v items h =>
    rcases items?_eq_some_iff.mp h with rfl | rfl <;> rfl
  | object v entries h =>
    rw [shapeOf_of_entries h, h]
    rfl
  | leaf v hitems hentries =>
    rw [shapeOf_of_leaf hitems hentries, hentries, leafShape]
    split <;> rfl

theorem contains_primitives_shapeOf (v : Value) (p : Primitive) :
    (shapeOf s v).primitives.contains p = decide (v.kind? = some (.simple p)) := by
  induction v using walk_induction with
  | array v items h =>
    rcases items?_eq_some_iff.mp h with rfl | rfl <;> exact Primitives.contains_empty p
  | object v entries h =>
    obtain rfl := entries?_eq_some_iff.mp h
    exact Primitives.contains_empty p
  | leaf v hitems hentries =>
    rw [shapeOf_of_leaf hitems hentries, leafShape]
    rcases kind?_of_leaf hitems hentries with h | h | ⟨q, h⟩
    · simp [h, Shape.empty]
    · simp [h, Shape.named]
    · simp [h, Shape.simple, Primitives.contains_insert]

theorem contains_classes_shapeOf (v : Value) (name : Text) :
    (shapeOf s v).classes.contains name
      = decide (v.kind? = some .named ∧ v.classOf.name = name) := by
  induction v using walk_induction with
  | array v items h =>
    rcases items?_eq_some_iff.mp h with rfl | rfl <;> exact Names.contains_empty name
  | object v entries h =>
    obtain rfl := entries?_eq_some_iff.mp h
    exact Names.contains_empty name
  | leaf v hitems hentries =>
    rw [shapeOf_of_leaf hitems hentries, leafShape]
    rcases kind?_of_leaf hitems hentries with h | h | ⟨q, h⟩
    · simp [h, Shape.empty]
    · simp [h, Shape.named, @eq_comm _ name]
    · simp [h, Shape.simple]

/-- The shape of a value repeats no name, since keys with one spelling collapse. -/
theorem isDistinct_shapeOf (v : Value) : (shapeOf s v).isDistinct = true := by
  induction v using walk_induction with
  | array v items h ih =>
    rw [shapeOf_of_items h, Shape.isDistinct_iff]
    refine ⟨?_, by simp [Shape.arrayOf]⟩
    rintro x hx
    obtain rfl := Option.some.inj hx
    refine Shape.isDistinct_fold fun t ht => ?_
    obtain ⟨w, hw, rfl⟩ := List.mem_map.mp ht
    exact ih w (Strategy.mem_of_mem_sampleFrom hw)
  | object v entries h ih =>
    rw [shapeOf_of_entries h, Shape.isDistinct_iff]
    refine ⟨by simp [Shape.objectOf], ?_⟩
    rintro ms hms
    obtain rfl := Option.some.inj hms
    refine ⟨nodup_collapse _, fun name x hx => ?_⟩
    obtain ⟨entry, hentry, heq⟩ := List.mem_map.mp (mem_of_mem_collapse hx)
    obtain ⟨-, rfl⟩ := Prod.mk.inj heq
    exact ih entry.1 entry.2 hentry
  | leaf v hitems hentries =>
    rw [shapeOf_of_leaf hitems hentries, leafShape]
    split <;> rfl

end Value

end ShapeInference
