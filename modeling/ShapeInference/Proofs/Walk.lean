import Mathlib.Data.List.TakeWhile
import ShapeInference.Proofs.Outcome

/-!
# What is met on the way

Classification builds shapes, merges them, reports and fails all at once. What it reports and how it
fails is nevertheless told by a plain walk that only lists the values that it comes by: each value
before its parts, dictionaries in order, arrays at the sampled positions.

- `Value.visits`: the values that the walk comes by, each with its path;
- `Visit.isSupported`, `Visit.report?`: whether a value can be classified, and what is reported when
  it is come by;
- `Follows`: a run reports and fails as a list of visits says;
- `Follows.bind`: running one after the other follows the one list and then the other;
- `Value.follows_visits`: classification follows the walk;
- `Value.classification_trace`: so it fails at the first value without a kind, and has reported the
  empty arrays before that.
-/

namespace ShapeInference

/-- A value that a walk comes by, and where. -/
structure Visit where
  path : Path
  value : Value

namespace Visit

/-- Whether the value has a kind. -/
def isSupported (w : Visit) : Bool :=
  w.value.kind?.isSome

/-- Whether what is said about the value can be said: its keys can be spelled if it is a dictionary,
and it can be shown if it has no kind. -/
def isTellable (w : Visit) : Bool :=
  (w.value.entries?.getD []).all (·.1.spell?.isSome)
    && (w.isSupported || w.value.inspect?.isSome)

/-- What is reported about the value: only that it is an array without elements. -/
def report? (w : Visit) : Option Event :=
  match w.value.items? with
  | some [] => some (.emptyArray w.path.write)
  | _ => none

end Visit

namespace Value

mutual

/-- The values that a walk from a value at a path comes by, a value before its parts. Only lists,
tuples and dictionaries are gone into. -/
def visits (s : Strategy) (path : Path) : Value → List Visit
  | list items => ⟨path, list items⟩ :: itemVisits s path (s.positions items.length) 0 items
  | tuple items => ⟨path, tuple items⟩ :: itemVisits s path (s.positions items.length) 0 items
  | dictionary entries => ⟨path, dictionary entries⟩ :: entryVisits s path entries
  | v => [⟨path, v⟩]

/-- The walk through the elements at the given positions among those from index `i` on. -/
def itemVisits (s : Strategy) (path : Path) (positions : List Nat) :
    Nat → List Value → List Visit
  | _, [] => []
  | i, v :: rest =>
    (if positions.contains i then visits s (path ++ [.element i]) v else [])
      ++ itemVisits s path positions (i + 1) rest

/-- The walk through the values of a dictionary. -/
def entryVisits (s : Strategy) (path : Path) : List (Value × Value) → List Visit
  | [] => []
  | (key, v) :: rest =>
    visits s (path ++ [.member (memberName key)]) v ++ entryVisits s path rest

end

section Parts

variable {s : Strategy} {path : Path} {v : Value}

theorem visits_of_items {items : List Value} (h : v.items? = some items) :
    visits s path v = ⟨path, v⟩ :: itemVisits s path (s.positions items.length) 0 items := by
  rcases items?_eq_some_iff.mp h with rfl | rfl <;> rw [visits]

theorem visits_of_leaf (hitems : v.items? = none) (hentries : v.entries? = none) :
    visits s path v = [⟨path, v⟩] := by
  cases v with
  | list => simp [items?] at hitems
  | tuple => simp [items?] at hitems
  | dictionary => simp [entries?] at hentries
  | _ => rfl

end Parts

end Value

/-! ## Runs that follow a list of visits -/

/-- The reports on a list of visits, which end where something has no kind. -/
def reportsOn (visits : List Visit) : List Event :=
  (visits.takeWhile Visit.isSupported).filterMap Visit.report?

/-- The first visit to something that has no kind. -/
def firstUnsupported? (visits : List Visit) : Option Visit :=
  visits.find? (!·.isSupported)

/-- A run fails as a visit to something without a kind makes it fail: with the class, a snapshot and
the path. -/
def FailsAt {α : Type} (run : Logged α) (w : Visit) : Prop :=
  ∃ snapshot, w.value.snapshot? = some snapshot ∧
    run.outcome = .error (.unsupported w.value.classOf.name snapshot w.path.write)

/-- A run reports what is to be reported on a list of visits, fails at the first one to something
that has no kind, and returns if there is none. -/
structure Follows {α : Type} (run : Logged α) (visits : List Visit) : Prop where
  events : run.events = reportsOn visits
  fails : ∀ w, firstUnsupported? visits = some w → FailsAt run w
  returns : firstUnsupported? visits = none → ∃ a, run.outcome = .ok a

section Visits

variable {xs ys : List Visit} {w : Visit}

theorem firstUnsupported?_append (xs ys : List Visit) :
    firstUnsupported? (xs ++ ys) = (firstUnsupported? xs).or (firstUnsupported? ys) :=
  List.find?_append

theorem firstUnsupported?_eq_none_iff :
    firstUnsupported? xs = none ↔ ∀ w ∈ xs, w.isSupported = true := by
  simp [firstUnsupported?]

theorem firstUnsupported?_cons (h : w.isSupported = true) :
    firstUnsupported? (w :: xs) = firstUnsupported? xs := by
  simp [firstUnsupported?, h]

theorem reportsOn_cons (h : w.isSupported = true) :
    reportsOn (w :: xs) = w.report?.toList ++ reportsOn xs := by
  unfold reportsOn
  rw [List.takeWhile_cons, if_pos h, List.filterMap_cons]
  cases w.report? <;> rfl

/-- Nothing is reported after something without a kind. -/
theorem reportsOn_append_of_some (h : firstUnsupported? xs = some w) :
    reportsOn (xs ++ ys) = reportsOn xs := by
  unfold reportsOn
  induction xs with
  | nil => cases h
  | cons x rest ih =>
    rw [List.cons_append, List.takeWhile_cons, List.takeWhile_cons]
    by_cases hx : x.isSupported
    · rw [firstUnsupported?_cons hx] at h
      rw [if_pos hx, if_pos hx, List.filterMap_cons, List.filterMap_cons, ih h]
    · rw [if_neg hx, if_neg hx]

theorem reportsOn_append_of_none (h : firstUnsupported? xs = none) :
    reportsOn (xs ++ ys) = reportsOn xs ++ reportsOn ys := by
  rw [firstUnsupported?_eq_none_iff] at h
  unfold reportsOn
  rw [List.takeWhile_append_of_pos h, List.takeWhile_eq_self_iff.mpr h, List.filterMap_append]

end Visits

namespace Follows

variable {α β : Type} {run : Logged α} {next : α → Logged β} {xs ys : List Visit} {w : Visit}

/-- A run that ends at once follows the empty list. -/
theorem ends (a : α) : Follows (pure a : Logged α) [] where
  events := rfl
  fails _ h := by cases h
  returns _ := ⟨a, rfl⟩

/-- What has a kind and is not reported is passed by without a trace. -/
theorem pass (hrun : Follows run xs) (hsupported : w.isSupported = true)
    (hsilent : w.report? = none) : Follows run (w :: xs) where
  events := by
    rw [reportsOn_cons hsupported, hsilent, Option.toList_none, List.nil_append, hrun.events]
  fails := by
    rw [firstUnsupported?_cons hsupported]
    exact hrun.fails
  returns := by
    rw [firstUnsupported?_cons hsupported]
    exact hrun.returns

/-- **Running one after the other** follows the one list and then the other: where the first run
fails, nothing more is reported. -/
theorem bind (hrun : Follows run xs) (hnext : ∀ a, run.outcome = .ok a → Follows (next a) ys) :
    Follows (run >>= next) (xs ++ ys) := by
  show Follows (run.andThen next) (xs ++ ys)
  unfold Logged.andThen
  cases hfirst : firstUnsupported? xs with
  | some w =>
    obtain ⟨snapshot, hsnapshot, houtcome⟩ := hrun.fails w hfirst
    rw [houtcome]
    refine ⟨?_, fun w' hw' => ?_, fun hnone => ?_⟩
    · rw [reportsOn_append_of_some hfirst, ← hrun.events]
    · rw [firstUnsupported?_append, hfirst, Option.some_or] at hw'
      obtain rfl := Option.some.inj hw'
      exact ⟨snapshot, hsnapshot, rfl⟩
    · rw [firstUnsupported?_append, hfirst] at hnone
      cases hnone
  | none =>
    obtain ⟨a, houtcome⟩ := hrun.returns hfirst
    have hnext := hnext a houtcome
    rw [houtcome]
    refine ⟨?_, fun w hw => ?_, fun hnone => ?_⟩
    · rw [reportsOn_append_of_none hfirst, ← hrun.events, ← hnext.events]
    · rw [firstUnsupported?_append, hfirst, Option.none_or] at hw
      exact hnext.fails w hw
    · rw [firstUnsupported?_append, hfirst, Option.none_or] at hnone
      exact hnext.returns hnone

/-- What is made of the value of a run changes nothing of what it reports and how it fails. -/
theorem map (hrun : Follows run xs) (f : α → β) :
    Follows (do let a ← run; return f a) xs := by
  have hnext : ∀ a, run.outcome = .ok a → Follows (pure (f a)) [] := fun a _ => .ends (f a)
  simpa using hrun.bind hnext

end Follows

namespace Value

variable {s : Strategy} {path : Path}

/-! ## The parts of a classification -/

theorem follows_spellKey {key : Value} (h : key.spell?.isSome = true) :
    Follows key.spellKey [] := by
  obtain ⟨t, ht⟩ := Option.isSome_iff_exists.mp h
  unfold spellKey
  rw [ht]
  exact .ends t

/-- What can be shown has a snapshot. -/
theorem isSome_snapshot? {v : Value} (h : v.inspect?.isSome = true) :
    v.snapshot?.isSome = true := by
  unfold snapshot?
  cases v.json? with
  | some t => rfl
  | none => exact h

theorem follows_refuse {v : Value} (hkind : v.kind? = none) (h : v.inspect?.isSome = true) :
    Follows (v.refuse path) [⟨path, v⟩] := by
  have hunsupported : Visit.isSupported ⟨path, v⟩ = false := by
    rw [Visit.isSupported, hkind]
    rfl
  have hfirst : firstUnsupported? [⟨path, v⟩] = some ⟨path, v⟩ := by
    simp [firstUnsupported?, hunsupported]
  obtain ⟨snapshot, hsnapshot⟩ := Option.isSome_iff_exists.mp (isSome_snapshot? h)
  have hrefuse : v.refuse path = .fail (.unsupported v.classOf.name snapshot path.write) := by
    unfold refuse
    rw [hsnapshot]
  rw [hrefuse]
  refine ⟨?_, fun w hw => ?_, fun hnone => ?_⟩
  · simp [reportsOn, hunsupported, Logged.fail]
  · obtain rfl := Option.some.inj (hfirst.symm.trans hw)
    exact ⟨snapshot, hsnapshot, rfl⟩
  · rw [hfirst] at hnone
    cases hnone

theorem follows_classifyLeaf {v : Value} (hitems : v.items? = none) (hentries : v.entries? = none)
    (h : Visit.isTellable ⟨path, v⟩ = true) : Follows (classifyLeaf v path) [⟨path, v⟩] := by
  have hsilent : Visit.report? ⟨path, v⟩ = none := by rw [Visit.report?, hitems]
  unfold classifyLeaf
  rcases kind?_of_leaf hitems hentries with hkind | hkind | ⟨p, hkind⟩
  · rw [hkind]
    refine follows_refuse hkind ?_
    simpa [Visit.isTellable, Visit.isSupported, hkind, hentries] using h
  · have hsupported : Visit.isSupported ⟨path, v⟩ = true := by rw [Visit.isSupported, hkind]; rfl
    rw [hkind]
    exact (Follows.ends _).pass hsupported hsilent
  · have hsupported : Visit.isSupported ⟨path, v⟩ = true := by rw [Visit.isSupported, hkind]; rfl
    rw [hkind]
    exact (Follows.ends _).pass hsupported hsilent

/-- An array is reported exactly if it is empty. -/
theorem follows_reportEmpty {v : Value} {items : List Value} (h : v.items? = some items) :
    Follows (reportEmpty items path) [⟨path, v⟩] := by
  have hsupported : Visit.isSupported ⟨path, v⟩ = true := by
    rcases items?_eq_some_iff.mp h with rfl | rfl <;> rfl
  cases items with
  | cons x rest => exact (Follows.ends ()).pass hsupported (by rw [Visit.report?, h])
  | nil =>
    have hreport : Visit.report? ⟨path, v⟩ = some (.emptyArray path.write) := by
      rw [Visit.report?, h]
    refine ⟨?_, fun w hw => ?_, fun _ => ⟨(), rfl⟩⟩
    · rw [reportsOn_cons hsupported, hreport]
      rfl
    · rw [firstUnsupported?_cons hsupported] at hw
      cases hw

/-! ## Classification follows the walk -/

/-- The classification of a value follows the walk from it, wherever it begins, if all that has to
be said on the way can be said. -/
def FollowsWalk (s : Strategy) (v : Value) : Prop :=
  ∀ path, (∀ w ∈ visits s path v, w.isTellable = true) →
    Follows (classifyAt s path v) (visits s path v)

/-- The run along the elements of an array. -/
theorem follows_classifyItems {length i : Nat} {items : List Value}
    (hlength : i + items.length = length) (ih : ∀ v ∈ items, FollowsWalk s v)
    (h : ∀ w ∈ itemVisits s path (s.positions length) i items, w.isTellable = true) :
    Follows (classifyItems s path length i items)
      (itemVisits s path (s.positions length) i items) := by
  induction items generalizing i with
  | nil =>
    rw [classifyItems, itemVisits]
    exact .ends []
  | cons v rest ihRest =>
    obtain ⟨hv, hrest⟩ := List.forall_mem_cons.mp ih
    rw [itemVisits, List.forall_mem_append] at h
    have hnext : i + 1 + rest.length = length := by
      rw [← hlength, List.length_cons]
      omega
    have hrun := ihRest hnext hrest h.2
    have hbound : i < length := by omega
    rw [classifyItems, itemVisits]
    rw [Strategy.contains_positions hbound] at h ⊢
    by_cases hi : s.picks length i
    · rw [if_pos hi] at h ⊢
      rw [if_pos hi]
      exact (hv _ h.1).bind fun shape _ => hrun.map (shape :: ·)
    · rw [if_neg hi, if_neg hi, List.nil_append]
      exact hrun

/-- The run along the entries of a dictionary. -/
theorem follows_classifyEntries {entries : List (Value × Value)}
    (hkeys : ∀ key w, (key, w) ∈ entries → key.spell?.isSome = true)
    (ih : ∀ key w, (key, w) ∈ entries → FollowsWalk s w)
    (h : ∀ w ∈ entryVisits s path entries, w.isTellable = true) :
    Follows (classifyEntries s path entries) (entryVisits s path entries) := by
  induction entries with
  | nil =>
    rw [classifyEntries, entryVisits]
    exact .ends []
  | cons entry rest ihRest =>
    obtain ⟨key, v⟩ := entry
    obtain ⟨hkey, hkeysRest⟩ := Entries.forall_mem_cons.mp hkeys
    obtain ⟨hv, hrest⟩ := Entries.forall_mem_cons.mp ih
    rw [entryVisits, List.forall_mem_append] at h
    have hrun := ihRest hkeysRest hrest h.2
    rw [classifyEntries, entryVisits]
    rw [← List.nil_append (visits s _ v ++ entryVisits s path rest)]
    refine (follows_spellKey hkey).bind fun name hname => ?_
    obtain ⟨-, rfl⟩ := spellKey_ok_iff.mp hname
    exact (hv _ h.1).bind fun shape _ => hrun.map ((memberName key, shape) :: ·)

/-- **Classification follows the walk**, wherever it begins. -/
theorem follows_visits (v : Value) : FollowsWalk s v := by
  induction v using walk_induction with
  | array v items hitems ih =>
    intro path h
    rw [visits_of_items hitems, List.forall_mem_cons] at h
    have hrun := follows_classifyItems (Nat.zero_add _) ih h.2
    rw [visits_of_items hitems]
    have hclassify : classifyAt s path v = do
        reportEmpty items path
        let shapes ← classifyItems s path items.length 0 items
        return .arrayOf (.fold (shapes.map some)) := by
      rcases items?_eq_some_iff.mp hitems with rfl | rfl <;> rw [classifyAt]
    rw [hclassify]
    exact (follows_reportEmpty hitems).bind fun _ _ => hrun.map _
  | object v entries hentries ih =>
    intro path h
    obtain rfl := entries?_eq_some_iff.mp hentries
    rw [visits, List.forall_mem_cons] at h
    have hkeys : ∀ key w, (key, w) ∈ entries → key.spell?.isSome = true := by
      intro key w hw
      have hall := (Bool.and_eq_true _ _).mp h.1
      exact List.all_eq_true.mp hall.1 (key, w) hw
    have hrun := follows_classifyEntries hkeys ih h.2
    rw [visits, classifyAt]
    exact (hrun.map _).pass rfl rfl
  | leaf v hitems hentries =>
    intro path h
    rw [visits_of_leaf hitems hentries] at h ⊢
    rw [classifyAt_of_leaf hitems hentries]
    exact follows_classifyLeaf hitems hentries (h _ List.mem_cons_self)

/-- **The trace of a classification**: if keys can be spelled and values without a kind can be
shown, classification fails exactly if the walk comes by a value that has no kind, and then with the
class, a snapshot and the path of the first one; otherwise it returns. It has reported the empty
arrays up to there, each once with its path, in the order of the walk. -/
theorem classification_trace {v : Value} (h : ∀ w ∈ v.visits s [], w.isTellable = true) :
    ((∃ className snapshot path,
        (v.classify s).outcome = .error (.unsupported className snapshot path)) ↔
      ∃ w ∈ v.visits s [], w.value.kind? = none) ∧
    (∀ className snapshot path,
      (v.classify s).outcome = .error (.unsupported className snapshot path) →
        ∃ w, firstUnsupported? (v.visits s []) = some w ∧ className = w.value.classOf.name ∧
          w.value.snapshot? = some snapshot ∧ path = w.path.write) ∧
    ((∀ w ∈ v.visits s [], w.value.kind? ≠ none) → ∃ t, (v.classify s).outcome = .ok t) ∧
    (v.classify s).events = reportsOn (v.visits s []) := by
  have hfollows : Follows (v.classify s) (v.visits s []) := follows_visits v [] h
  have hnone : firstUnsupported? (v.visits s []) = none ↔
      ∀ w ∈ v.visits s [], w.value.kind? ≠ none := by
    rw [firstUnsupported?_eq_none_iff]
    simp [Visit.isSupported, Option.isSome_iff_ne_none]
  refine ⟨⟨?_, ?_⟩, ?_, fun hall => hfollows.returns (hnone.mpr hall), hfollows.events⟩
  · -- a walk without such a value would have returned
    rintro ⟨className, snapshot, path, houtcome⟩
    by_contra hall
    push Not at hall
    obtain ⟨t, ht⟩ := hfollows.returns (hnone.mpr hall)
    rw [houtcome] at ht
    cases ht
  · rintro ⟨w, hw, hkind⟩
    cases hfirst : firstUnsupported? (v.visits s []) with
    | none => exact absurd hkind (hnone.mp hfirst w hw)
    | some first =>
      obtain ⟨snapshot, -, houtcome⟩ := hfollows.fails first hfirst
      exact ⟨_, snapshot, _, houtcome⟩
  · intro className snapshot path houtcome
    cases hfirst : firstUnsupported? (v.visits s []) with
    | none =>
      obtain ⟨t, ht⟩ := hfollows.returns hfirst
      rw [houtcome] at ht
      cases ht
    | some first =>
      obtain ⟨snapshot', hsnapshot, houtcome'⟩ := hfollows.fails first hfirst
      rw [houtcome] at houtcome'
      injection houtcome' with hfailure
      injection hfailure with hclass hshown hpath
      exact ⟨first, rfl, hclass, hshown ▸ hsnapshot, hpath⟩

/-- Empty arrays and values without a kind, some of them where the first and the last element of an
array are all that is looked at. -/
def emptyAndUnsupported : Value :=
  dictionary [
    (text "a-b", list [list [], set false [], tuple []]),
    (null, tuple [dictionary [(bool true, list []), (text "c", set false [])], list [],
      bytes false []])]

theorem classification_trace_of_empty_and_unsupported :
    (∀ w ∈ emptyAndUnsupported.visits .firstLast [], w.isTellable = true) ∧
    (emptyAndUnsupported.classify .firstLast).events =
      [.emptyArray "$[\"a-b\"][0]", .emptyArray "$[\"a-b\"][2]", .emptyArray "$.None[0].True"] ∧
    (emptyAndUnsupported.classify .firstLast).outcome =
      .error (.unsupported "set" "set()" "$.None[0].c") := by
  have htellable : ∀ w ∈ emptyAndUnsupported.visits .firstLast [], w.isTellable = true := by decide
  obtain ⟨-, -, -, hevents⟩ := classification_trace htellable
  exact ⟨htellable, hevents.trans rfl, rfl⟩

end Value

end ShapeInference
