import ShapeInference.Proofs.Walk

/-!
# What has to be put into words

Classification writes texts on its way: every key becomes the name of a member, and a value without
a kind is described by a snapshot. An integer with too many digits has no numeral, so such a text
may be impossible, and then the run fails for that reason and not because of a value that has no
kind. The walk is told once more, by what it has to put into words; the run ends at the first of
these where it cannot go on.

- `Value.integers`: the integers that a value holds;
- `Value.isSome_inspect?`, `Value.isSome_spell?`: what holds no long integer can be shown and
  spelled;
- `Value.sayings`: what a walk has to put into words, in order;
- `Saying.failure`: the failure of a walk that stops there;
- `StopsAt.bind`: runs one after the other stop where the first one or the second one does;
- `Value.stopsAt_classifyAt`: classification stops as the walk says;
- `Value.saysParts`: what is said is about parts of the value;
- `Value.classification_fails_by_kind_or_long_integer`: the ways in which classification can end.
-/

namespace ShapeInference

namespace Value

/-! ## The integers that a value holds -/

mutual

/-- The integers that a value holds: itself, its keys, items and parts, at any depth. -/
def integers : Value → List Int
  | int n => [n]
  | list items => itemIntegers items
  | tuple items => itemIntegers items
  | dictionary entries => entryIntegers entries
  | object _ _ _ content =>
    match content with
    | none => []
    | some v => integers v
  | row _ _ items => itemIntegers items
  | tally _ counts => entryIntegers counts
  | set _ items => itemIntegers items
  | range start stop step => [start, stop, step]
  | slice start stop step => integers start ++ integers stop ++ integers step
  | view _ _ entries => entryIntegers entries
  | proxy viewed => integers viewed
  | exception _ _ args => itemIntegers args
  | _ => []

/-- The integers that items hold. -/
def itemIntegers : List Value → List Int
  | [] => []
  | v :: vs => integers v ++ itemIntegers vs

/-- The integers that the keys and values of entries hold. -/
def entryIntegers : List (Value × Value) → List Int
  | [] => []
  | (key, v) :: rest => integers key ++ integers v ++ entryIntegers rest

end

/-- No integer of a list has more digits than a numeral may have. -/
def AreShort (ns : List Int) : Prop :=
  ∀ n ∈ ns, Numeral.isTooLong n.natAbs = false

theorem areShort_append {ms ns : List Int} : AreShort (ms ++ ns) ↔ AreShort ms ∧ AreShort ns :=
  List.forall_mem_append

theorem areShort_cons {n : Int} {ns : List Int} :
    AreShort (n :: ns) ↔ Numeral.isTooLong n.natAbs = false ∧ AreShort ns :=
  List.forall_mem_cons

/-- An integer that is not too long has a numeral. -/
theorem isSome_write? {n : Int} (h : Numeral.isTooLong n.natAbs = false) :
    (Numeral.write? n).isSome = true := by
  unfold Numeral.write?
  rw [h]
  rfl

/-! ## What can be shown and spelled -/

mutual

/-- **What holds no long integer can be shown.** -/
theorem isSome_inspect? : ∀ {v : Value}, AreShort v.integers → v.inspect?.isSome = true
  | int n, h => isSome_write? (h n List.mem_cons_self)
  | list items, h => by
    rw [inspect?, Option.isSome_map]
    exact isSome_inspectItems? h
  | tuple items, h => by
    rw [inspect?, Option.isSome_map]
    exact isSome_inspectItems? h
  | dictionary entries, h => by
    rw [inspect?, Option.isSome_map]
    exact (isSome_inspectEntries? h).1
  | object cls shown spelled content, h => by
    cases shown with
    | some t => rfl
    | none =>
      cases content with
      | none => rfl
      | some v => exact isSome_inspect? (v := v) h
  | set frozen items, h => by
    rw [inspect?, Option.isSome_map]
    exact isSome_inspectItems? h
  | range start stop step, h => by
    simp only [integers, areShort_cons] at h
    obtain ⟨hstart, hstop, hstep, -⟩ := h
    obtain ⟨a, ha⟩ := Option.isSome_iff_exists.mp (isSome_write? hstart)
    obtain ⟨b, hb⟩ := Option.isSome_iff_exists.mp (isSome_write? hstop)
    obtain ⟨c, hc⟩ := Option.isSome_iff_exists.mp (isSome_write? hstep)
    simp [inspect?, inspectRange?, ha, hb, hc]
  | slice start stop step, h => by
    rw [integers, areShort_append, areShort_append] at h
    obtain ⟨⟨hstart, hstop⟩, hstep⟩ := h
    obtain ⟨a, ha⟩ := Option.isSome_iff_exists.mp (isSome_inspect? hstart)
    obtain ⟨b, hb⟩ := Option.isSome_iff_exists.mp (isSome_inspect? hstop)
    obtain ⟨c, hc⟩ := Option.isSome_iff_exists.mp (isSome_inspect? hstep)
    simp [inspect?, ha, hb, hc]
  | view v ordered entries, h => by
    obtain ⟨-, hkeys, hvalues, hpairs⟩ := isSome_inspectEntries? h
    cases v with
    | keys =>
      rw [inspect?, Option.isSome_map]
      exact hkeys
    | values =>
      rw [inspect?, Option.isSome_map]
      exact hvalues
    | items =>
      rw [inspect?, Option.isSome_map]
      exact hpairs
  | proxy viewed, h => by
    rw [inspect?, Option.isSome_map]
    exact isSome_inspect? h
  | exception className spelled args, h => by
    rw [inspect?, Option.isSome_map]
    exact isSome_inspectItems? h
  | null, _ => rfl
  | undefined, _ => rfl
  | bool _, _ => rfl
  | float _, _ => rfl
  | text _, _ => rfl
  | function _ _, _ => rfl
  | classObject _ _, _ => rfl
  | strategy _, _ => rfl
  | primitive _, _ => rfl
  | shape _, _ => rfl
  | row _ _ _, _ => rfl
  | tally _ _, _ => rfl
  | bytes _ _, _ => rfl
  | complex _ _, _ => rfl
  | builtin _ _, _ => rfl

/-- This holds of items. -/
theorem isSome_inspectItems? : ∀ {items : List Value}, AreShort (itemIntegers items) →
    (inspectItems? items).isSome = true
  | [], _ => rfl
  | v :: vs, h => by
    rw [itemIntegers, areShort_append] at h
    obtain ⟨t, ht⟩ := Option.isSome_iff_exists.mp (isSome_inspect? h.1)
    obtain ⟨ts, hts⟩ := Option.isSome_iff_exists.mp (isSome_inspectItems? h.2)
    simp [inspectItems?, ht, hts]

/-- This holds of entries, whatever of them is shown. -/
theorem isSome_inspectEntries? : ∀ {entries : List (Value × Value)},
    AreShort (entryIntegers entries) →
      (inspectEntries? entries).isSome = true ∧ (inspectKeys? entries).isSome = true ∧
      (inspectValues? entries).isSome = true ∧ (inspectPairs? entries).isSome = true
  | [], _ => ⟨rfl, rfl, rfl, rfl⟩
  | (key, v) :: rest, h => by
    rw [entryIntegers, areShort_append, areShort_append] at h
    obtain ⟨⟨hkey, hv⟩, hrest⟩ := h
    obtain ⟨k, hk⟩ := Option.isSome_iff_exists.mp (isSome_inspect? hkey)
    obtain ⟨t, ht⟩ := Option.isSome_iff_exists.mp (isSome_inspect? hv)
    obtain ⟨hentries, hkeys, hvalues, hpairs⟩ := isSome_inspectEntries? hrest
    obtain ⟨es, hes⟩ := Option.isSome_iff_exists.mp hentries
    obtain ⟨ks, hks⟩ := Option.isSome_iff_exists.mp hkeys
    obtain ⟨vs, hvs⟩ := Option.isSome_iff_exists.mp hvalues
    obtain ⟨ps, hps⟩ := Option.isSome_iff_exists.mp hpairs
    simp [inspectEntries?, inspectKeys?, inspectValues?, inspectPairs?, hk, ht, hes, hks, hvs, hps]

end

/-- **What holds no long integer can be spelled**, too. -/
theorem isSome_spell? : ∀ {v : Value}, AreShort v.integers → v.spell?.isSome = true
  | object cls shown spelled content, h => by
    have hshown := isSome_inspect? h
    cases spelled with
    | some t => rfl
    | none =>
      cases content with
      | none => exact hshown
      | some v =>
        cases v with
        | text t => rfl
        | _ => exact hshown
  | exception className (some t) args, _ => rfl
  | exception className none args, h => by
    have hitems : AreShort (itemIntegers args) := h
    cases args with
    | nil => rfl
    | cons v rest =>
      cases rest with
      | nil =>
        rw [itemIntegers, areShort_append] at hitems
        rw [spell?]
        split
        · exact isSome_inspect? hitems.1
        · exact isSome_spell? hitems.1
      | cons w rest =>
        show ((inspectItems? (v :: w :: rest)).map Text.tupled).isSome = true
        rw [Option.isSome_map]
        exact isSome_inspectItems? hitems
  | proxy viewed, h => by
    rw [spell?]
    exact isSome_spell? (v := viewed) h
  | text _, _ => rfl
  | strategy _, _ => rfl
  | primitive _, _ => rfl
  | int n, h => isSome_inspect? h
  | list items, h => isSome_inspect? h
  | tuple items, h => isSome_inspect? h
  | dictionary entries, h => isSome_inspect? h
  | set frozen items, h => isSome_inspect? h
  | range start stop step, h => isSome_inspect? h
  | slice start stop step, h => isSome_inspect? h
  | view v ordered entries, h => isSome_inspect? h
  | null, _ => rfl
  | undefined, _ => rfl
  | bool _, _ => rfl
  | float _, _ => rfl
  | function _ _, _ => rfl
  | classObject _ _, _ => rfl
  | shape _, _ => rfl
  | row _ _ _, _ => rfl
  | tally _ _, _ => rfl
  | bytes _ _, _ => rfl
  | complex _ _, _ => rfl
  | builtin _ _, _ => rfl

end Value

/-! ## What a walk has to say -/

/-- Something that a walk has to put into words. -/
inductive Saying where
  /-- A key of a dictionary, which becomes the name of a member. -/
  | key (k : Value)
  /-- A value without a kind, which is described in the failure that it causes. -/
  | unsupported (path : Path) (v : Value)

namespace Saying

/-- The value that is put into words. -/
def value : Saying → Value
  | key k => k
  | unsupported _ v => v

/-- The words for it, if there are any. -/
def text? : Saying → Option Text
  | key k => k.spell?
  | unsupported _ v => v.snapshot?

/-- Whether a walk goes on after it has been said: only after a key. -/
def isPassed : Saying → Bool
  | key k => k.spell?.isSome
  | unsupported _ _ => false

/-- The failure of a walk that does not go on. -/
def failure (w : Saying) : Failure :=
  match w, w.text? with
  | unsupported path v, some snapshot => .unsupported v.classOf.name snapshot path.write
  | _, _ => .longNumeral

/-- A value without words holds an integer that is too long. -/
theorem exists_long_of_text?_eq_none {w : Saying} (h : w.text? = none) :
    ∃ n ∈ w.value.integers, Numeral.isTooLong n.natAbs = true := by
  by_contra hshort
  have hall : Value.AreShort w.value.integers := by
    intro n hn
    rw [← Bool.not_eq_true]
    exact fun hlong => hshort ⟨n, hn, hlong⟩
  cases w with
  | key k =>
    have hspell : k.spell?.isSome = true := Value.isSome_spell? hall
    have hnone : k.spell? = none := h
    rw [hnone] at hspell
    cases hspell
  | unsupported path v =>
    have hsnapshot : v.snapshot?.isSome = true :=
      Value.isSome_snapshot? (Value.isSome_inspect? hall)
    have hnone : v.snapshot? = none := h
    rw [hnone] at hsnapshot
    cases hsnapshot

/-- What cannot be put into words makes the walk fail for a long numeral. -/
theorem failure_of_none {w : Saying} (h : w.text? = none) : w.failure = .longNumeral := by
  unfold failure
  rw [h]
  cases w <;> rfl

/-- A value without a kind that can be described makes the walk fail with its description. -/
theorem failure_of_snapshot (path : Path) {v : Value} {snapshot : Text}
    (h : v.snapshot? = some snapshot) :
    (unsupported path v).failure = .unsupported v.classOf.name snapshot path.write := by
  have htext : (unsupported path v).text? = some snapshot := h
  unfold failure
  rw [htext]

/-- A walk that does not go on fails for a long numeral, or else for a value without a kind. -/
theorem failure_cases {w : Saying} (h : w.isPassed = false) :
    (w.text? = none ∧ w.failure = .longNumeral) ∨
      ∃ path v snapshot, w = unsupported path v ∧ v.snapshot? = some snapshot ∧
        w.failure = .unsupported v.classOf.name snapshot path.write := by
  cases w with
  | key k =>
    have hnone : k.spell? = none := by
      rw [← Option.not_isSome_iff_eq_none]
      exact Bool.eq_false_iff.mp h
    exact .inl ⟨hnone, failure_of_none hnone⟩
  | unsupported path v =>
    cases hsnapshot : v.snapshot? with
    | none => exact .inl ⟨hsnapshot, failure_of_none hsnapshot⟩
    | some snapshot =>
      exact .inr ⟨path, v, snapshot, rfl, hsnapshot, failure_of_snapshot path hsnapshot⟩

end Saying

/-- The first of several things to say after which a walk does not go on. -/
def firstStop? (sayings : List Saying) : Option Saying :=
  sayings.find? (!·.isPassed)

theorem isPassed_of_firstStop? {sayings : List Saying} {w : Saying}
    (h : firstStop? sayings = some w) : w.isPassed = false := by
  simpa using List.find?_some h

/-- A run ends at the first thing to say after which it cannot go on, and returns if there is
none. -/
def StopsAt {α : Type} (run : Logged α) (sayings : List Saying) : Prop :=
  match firstStop? sayings with
  | some w => run.outcome = .error w.failure
  | none => ∃ a, run.outcome = .ok a

namespace StopsAt

variable {α β : Type} {run : Logged α} {xs ys : List Saying}

theorem of_some {w : Saying} (h : firstStop? xs = some w) :
    StopsAt run xs ↔ run.outcome = .error w.failure := by
  unfold StopsAt
  rw [h]

theorem of_none (h : firstStop? xs = none) : StopsAt run xs ↔ ∃ a, run.outcome = .ok a := by
  unfold StopsAt
  rw [h]

theorem ends {a : α} (h : run.outcome = .ok a) : StopsAt run [] :=
  (of_none rfl).mpr ⟨a, h⟩

/-- **Runs one after the other** stop where the first one does, or else where the second one
does. -/
theorem bind {next : α → Logged β} (hrun : StopsAt run xs)
    (hnext : ∀ a, run.outcome = .ok a → StopsAt (next a) ys) :
    StopsAt (run >>= next) (xs ++ ys) := by
  have happend : firstStop? (xs ++ ys) = (firstStop? xs).or (firstStop? ys) := List.find?_append
  cases hfirst : firstStop? xs with
  | some w =>
    rw [of_some hfirst] at hrun
    rw [hfirst, Option.some_or] at happend
    rw [of_some happend]
    exact Logged.outcome_bind_of_error hrun next
  | none =>
    obtain ⟨a, ha⟩ := (of_none hfirst).mp hrun
    have hsecond := hnext a ha
    rw [hfirst, Option.none_or] at happend
    unfold StopsAt at hsecond ⊢
    rw [happend, Logged.outcome_bind_of_ok ha]
    exact hsecond

/-- What is made of the value of a run does not change where it stops. -/
theorem map (hrun : StopsAt run xs) (f : α → β) :
    StopsAt (do let a ← run; return f a) xs := by
  have hnext : ∀ a, run.outcome = .ok a → StopsAt (pure (f a)) [] := fun a _ => ends rfl
  simpa using hrun.bind hnext

end StopsAt

namespace Value

mutual

/-- What a walk from a value at a path has to put into words, in order: in a dictionary each key
before what is met in its value. -/
def sayings (s : Strategy) (path : Path) : Value → List Saying
  | list items => itemSayings s path (s.positions items.length) 0 items
  | tuple items => itemSayings s path (s.positions items.length) 0 items
  | dictionary entries => entrySayings s path entries
  | v => if v.kind?.isSome then [] else [.unsupported path v]

/-- This for the elements at the given positions among those from index `i` on. -/
def itemSayings (s : Strategy) (path : Path) (positions : List Nat) :
    Nat → List Value → List Saying
  | _, [] => []
  | i, v :: rest =>
    (if positions.contains i then sayings s (path ++ [.element i]) v else [])
      ++ itemSayings s path positions (i + 1) rest

/-- This for the entries of a dictionary. -/
def entrySayings (s : Strategy) (path : Path) : List (Value × Value) → List Saying
  | [] => []
  | (key, v) :: rest =>
    .key key :: (sayings s (path ++ [.member (memberName key)]) v ++ entrySayings s path rest)

end

variable {s : Strategy} {path : Path}

theorem sayings_of_items {v : Value} {items : List Value} (h : v.items? = some items) :
    sayings s path v = itemSayings s path (s.positions items.length) 0 items := by
  rcases items?_eq_some_iff.mp h with rfl | rfl <;> rw [sayings]

theorem sayings_of_leaf {v : Value} (hitems : v.items? = none) (hentries : v.entries? = none) :
    sayings s path v = if v.kind?.isSome then [] else [.unsupported path v] := by
  cases v with
  | list => simp [items?] at hitems
  | tuple => simp [items?] at hitems
  | dictionary => simp [entries?] at hentries
  | _ => rfl

/-! ## The parts of a classification -/

/-- A key stops the walk if it cannot be spelled. -/
theorem stopsAt_spellKey (key : Value) : StopsAt key.spellKey [.key key] := by
  unfold spellKey
  cases hspell : key.spell? with
  | some t =>
    have hpassed : firstStop? [.key key] = none := by
      simp [firstStop?, Saying.isPassed, hspell]
    exact (StopsAt.of_none hpassed).mpr ⟨t, rfl⟩
  | none =>
    have hstop : firstStop? [.key key] = some (.key key) := by
      simp [firstStop?, Saying.isPassed, hspell]
    exact (StopsAt.of_some hstop).mpr rfl

/-- A value without a kind always stops the walk. -/
theorem stopsAt_refuse (v : Value) (path : Path) :
    StopsAt (v.refuse path) [.unsupported path v] := by
  have hstop : firstStop? [.unsupported path v] = some (.unsupported path v) := rfl
  rw [StopsAt.of_some hstop]
  unfold refuse
  cases hsnapshot : v.snapshot? with
  | none =>
    rw [Saying.failure_of_none (w := .unsupported path v) hsnapshot]
    rfl
  | some snapshot =>
    rw [Saying.failure_of_snapshot path hsnapshot]
    rfl

theorem stopsAt_classifyLeaf {v : Value} (hitems : v.items? = none) (hentries : v.entries? = none)
    (path : Path) : StopsAt (classifyLeaf v path) (sayings s path v) := by
  rw [sayings_of_leaf hitems hentries]
  unfold classifyLeaf
  rcases kind?_of_leaf hitems hentries with hkind | hkind | ⟨p, hkind⟩
  · rw [hkind]
    exact stopsAt_refuse v path
  · rw [hkind]
    exact .ends rfl
  · rw [hkind]
    exact .ends rfl

/-! ## Where a classification stops -/

/-- The classification of a value stops as the walk from it says, wherever it begins. -/
def StopsAsWalk (s : Strategy) (v : Value) : Prop :=
  ∀ path, StopsAt (classifyAt s path v) (sayings s path v)

/-- The run along the elements of an array. -/
theorem stopsAt_classifyItems {length i : Nat} {items : List Value}
    (hlength : i + items.length = length) (ih : ∀ v ∈ items, StopsAsWalk s v) :
    StopsAt (classifyItems s path length i items)
      (itemSayings s path (s.positions length) i items) := by
  induction items generalizing i with
  | nil =>
    rw [classifyItems, itemSayings]
    exact .ends rfl
  | cons v rest ihRest =>
    obtain ⟨hv, hrest⟩ := List.forall_mem_cons.mp ih
    have hnext : i + 1 + rest.length = length := by
      rw [← hlength, List.length_cons]
      omega
    have hi : i < length := by
      rw [← hlength, List.length_cons]
      omega
    rw [classifyItems, itemSayings, Strategy.contains_positions hi]
    by_cases hpicks : s.picks length i
    · rw [if_pos hpicks, if_pos hpicks]
      exact (hv _).bind fun shape _ => (ihRest hnext hrest).map (shape :: ·)
    · rw [if_neg hpicks, if_neg hpicks, List.nil_append]
      exact ihRest hnext hrest

/-- The run along the entries of a dictionary. -/
theorem stopsAt_classifyEntries {entries : List (Value × Value)}
    (ih : ∀ key v, (key, v) ∈ entries → StopsAsWalk s v) :
    StopsAt (classifyEntries s path entries) (entrySayings s path entries) := by
  induction entries with
  | nil =>
    rw [classifyEntries, entrySayings]
    exact .ends rfl
  | cons entry rest ihRest =>
    obtain ⟨key, v⟩ := entry
    obtain ⟨hv, hrest⟩ := Entries.forall_mem_cons.mp ih
    rw [classifyEntries, entrySayings]
    refine (stopsAt_spellKey key).bind fun name hname => ?_
    obtain ⟨-, rfl⟩ := spellKey_ok_iff.mp hname
    exact (hv _).bind fun shape _ => (ihRest hrest).map ((memberName key, shape) :: ·)

/-- **Classification stops as the walk says**, wherever it begins. -/
theorem stopsAt_classifyAt (v : Value) : StopsAsWalk s v := by
  induction v using walk_induction with
  | array v items hitems ih =>
    intro path
    have hrun : StopsAt (classifyItems s path items.length 0 items)
        (itemSayings s path (s.positions items.length) 0 items) :=
      stopsAt_classifyItems (Nat.zero_add _) ih
    have hreport : StopsAt (reportEmpty items path) [] := .ends (reportEmpty_ok items path)
    rw [sayings_of_items hitems]
    rcases items?_eq_some_iff.mp hitems with rfl | rfl <;>
    · rw [classifyAt]
      exact hreport.bind fun _ _ => hrun.map _
  | object v entries hentries ih =>
    intro path
    obtain rfl := entries?_eq_some_iff.mp hentries
    rw [sayings, classifyAt]
    exact (stopsAt_classifyEntries ih).map _
  | leaf v hitems hentries =>
    intro path
    rw [classifyAt_of_leaf hitems hentries]
    exact stopsAt_classifyLeaf hitems hentries path

/-! ## What is said is in the value -/

/-- Whatever is said on the way from a value is about a part of it, and so are the integers there.
-/
def SaysParts (s : Strategy) (v : Value) : Prop :=
  ∀ path, ∀ w ∈ sayings s path v, w.value.integers ⊆ v.integers

theorem integers_subset_of_mem_itemSayings {items : List Value} {positions : List Nat} {i : Nat}
    (ih : ∀ v ∈ items, SaysParts s v) {w : Saying} (h : w ∈ itemSayings s path positions i items) :
    w.value.integers ⊆ itemIntegers items := by
  induction items generalizing i with
  | nil =>
    rw [itemSayings] at h
    cases h
  | cons v rest ihRest =>
    obtain ⟨hv, hrest⟩ := List.forall_mem_cons.mp ih
    rw [itemSayings, List.mem_append] at h
    rw [itemIntegers]
    rcases h with hfirst | hlater
    · have hpart : w ∈ sayings s (path ++ [.element i]) v := by
        split at hfirst
        · exact hfirst
        · cases hfirst
      exact fun n hn => List.mem_append_left _ (hv _ w hpart hn)
    · exact fun n hn => List.mem_append_right _ (ihRest hrest hlater hn)

theorem integers_subset_of_mem_entrySayings {entries : List (Value × Value)}
    (ih : ∀ key v, (key, v) ∈ entries → SaysParts s v) {w : Saying}
    (h : w ∈ entrySayings s path entries) : w.value.integers ⊆ entryIntegers entries := by
  induction entries with
  | nil =>
    rw [entrySayings] at h
    cases h
  | cons entry rest ihRest =>
    obtain ⟨key, v⟩ := entry
    obtain ⟨hv, hrest⟩ := Entries.forall_mem_cons.mp ih
    rw [entrySayings, List.mem_cons, List.mem_append] at h
    rw [entryIntegers]
    intro n hn
    rcases h with rfl | hvalue | hlater
    · exact List.mem_append_left _ (List.mem_append_left _ hn)
    · exact List.mem_append_left _ (List.mem_append_right _ (hv _ w hvalue hn))
    · exact List.mem_append_right _ (ihRest hrest hlater hn)

/-- **Every value says what is a part of it.** -/
theorem saysParts (v : Value) : SaysParts s v := by
  induction v using walk_induction with
  | array v items hitems ih =>
    intro path w hw
    rw [sayings_of_items hitems] at hw
    have hsubset := integers_subset_of_mem_itemSayings ih hw
    rcases items?_eq_some_iff.mp hitems with rfl | rfl <;> exact hsubset
  | object v entries hentries ih =>
    intro path w hw
    obtain rfl := entries?_eq_some_iff.mp hentries
    rw [sayings] at hw
    exact integers_subset_of_mem_entrySayings ih hw
  | leaf v hitems hentries =>
    intro path w hw
    rw [sayings_of_leaf hitems hentries] at hw
    split at hw
    · cases hw
    · obtain rfl := List.mem_singleton.mp hw
      exact List.Subset.refl _

/-! ## How classification ends -/

/-- A walk whose first stop cannot be put into words fails for a long numeral. -/
theorem outcome_classify_of_unworded {v : Value} {w : Saying}
    (hfirst : firstStop? (v.sayings s []) = some w) (hnone : w.text? = none) :
    (v.classify s).outcome = .error .longNumeral := by
  have hstops : StopsAt (v.classify s) (v.sayings s []) := stopsAt_classifyAt v []
  have houtcome := (StopsAt.of_some hfirst).mp hstops
  rw [Saying.failure_of_none hnone] at houtcome
  exact houtcome

/-- **How classification ends**: it returns a shape, or fails for a value without a kind, or fails
because an integer has more digits than numerals may have. The last happens exactly if the first
thing after which the walk does not go on, a key or a value without a kind, cannot be put into
words, and only if such an integer is in the value. -/
theorem classification_fails_by_kind_or_long_integer (s : Strategy) (v : Value) :
    ((∃ t, (v.classify s).outcome = .ok t) ∨
      (∃ className snapshot path,
        (v.classify s).outcome = .error (.unsupported className snapshot path)) ∨
      (v.classify s).outcome = .error .longNumeral) ∧
    ((v.classify s).outcome = .error .longNumeral ↔
      ∃ w, firstStop? (v.sayings s []) = some w ∧ w.text? = none) ∧
    ((v.classify s).outcome = .error .longNumeral →
      ∃ n ∈ v.integers, Numeral.isTooLong n.natAbs = true) := by
  have hstops : StopsAt (v.classify s) (v.sayings s []) := stopsAt_classifyAt v []
  have hunworded : (v.classify s).outcome = .error .longNumeral →
      ∃ w, firstStop? (v.sayings s []) = some w ∧ w.text? = none := by
    intro hlong
    cases hfirst : firstStop? (v.sayings s []) with
    | none =>
      obtain ⟨t, ht⟩ := (StopsAt.of_none hfirst).mp hstops
      rw [hlong] at ht
      cases ht
    | some w =>
      have houtcome := (StopsAt.of_some hfirst).mp hstops
      rcases Saying.failure_cases (isPassed_of_firstStop? hfirst) with
        ⟨hnone, -⟩ | ⟨path, u, snapshot, -, -, hfailure⟩
      · exact ⟨w, rfl, hnone⟩
      · rw [hlong, hfailure] at houtcome
        cases houtcome
  refine ⟨?_, ⟨hunworded, ?_⟩, fun hlong => ?_⟩
  · cases hfirst : firstStop? (v.sayings s []) with
    | none => exact .inl ((StopsAt.of_none hfirst).mp hstops)
    | some w =>
      have houtcome := (StopsAt.of_some hfirst).mp hstops
      rcases Saying.failure_cases (isPassed_of_firstStop? hfirst) with
        ⟨-, hfailure⟩ | ⟨path, u, snapshot, -, -, hfailure⟩
      · exact .inr (.inr (houtcome.trans (congrArg Except.error hfailure)))
      · exact .inr (.inl ⟨_, snapshot, _, houtcome.trans (congrArg Except.error hfailure)⟩)
  · rintro ⟨w, hfirst, hnone⟩
    exact outcome_classify_of_unworded hfirst hnone
  · obtain ⟨w, hfirst, hnone⟩ := hunworded hlong
    obtain ⟨n, hn, hlong⟩ := Saying.exists_long_of_text?_eq_none hnone
    have hw : w ∈ v.sayings s [] := List.mem_of_find?_eq_some hfirst
    exact ⟨n, saysParts v [] w hw hn, hlong⟩

/-! ## Long integers

A key that is such an integer has no words, and neither has a set that holds one. -/

/-- A dictionary with a long integer for a key stops the walk, whatever value it has there. -/
theorem outcome_classify_of_long_key {n : Int} (h : Numeral.write? n = none) (v : Value) :
    ((dictionary [(int n, v)]).classify s).outcome = .error .longNumeral := by
  have hspell : (int n).spell? = none := h
  have hfirst : firstStop? ((dictionary [(int n, v)]).sayings s []) = some (.key (int n)) := by
    rw [sayings, entrySayings, firstStop?]
    refine List.find?_cons_of_pos ?_
    rw [Saying.isPassed, hspell]
    rfl
  exact outcome_classify_of_unworded hfirst hspell

/-- A set with a long integer in it cannot be described. -/
theorem outcome_classify_of_long_item {n : Int} (h : Numeral.write? n = none) :
    ((set false [int n]).classify s).outcome = .error .longNumeral := by
  have hjson : (set false [int n]).json? = none := rfl
  have hsnapshot : (set false [int n]).snapshot? = none := by
    rw [snapshot?, hjson, inspect?, inspectItems?, inspect?, h]
    rfl
  exact outcome_classify_of_unworded (w := .unsupported [] (set false [int n])) rfl hsnapshot

/-- The least positive integer that has no numeral. -/
def leastLong : Int :=
  (Nat.pow 10 Numeral.maxDigits : Nat)

theorem write?_leastLong : Numeral.write? leastLong = none := by
  have hlong : Numeral.isTooLong leastLong.natAbs = true := by
    unfold leastLong
    rw [Int.natAbs_natCast]
    exact decide_eq_true (Nat.le_refl _)
  unfold Numeral.write?
  rw [hlong]
  rfl

/-- A dictionary may make classification fail although no value in it is without a kind, and a set
may make it fail for another reason than that sets have no kind. -/
theorem classification_fails_of_long_key_and_long_item :
    ((dictionary [(int leastLong, null)]).classify .all).outcome = .error .longNumeral ∧
    ((set false [int leastLong]).classify .all).outcome = .error .longNumeral :=
  ⟨outcome_classify_of_long_key write?_leastLong null,
    outcome_classify_of_long_item write?_leastLong⟩

end Value

end ShapeInference
