import ShapeInference.Entries

/-!
# Entries as mappings

Lists of entries are looked at through two readings: the keys in the order in which they first
appear, and the value of a key. Both are told for every operation on entries, and together they
determine a list in which no key is repeated.

- `Entries.keys`: the keys in order;
- `Entries.keys_collapse`: collapsing keeps the first appearance of each key;
- `Entries.first?_collapse`: collapsing keeps the last value of each key;
- `Entries.ext_of_nodup`: entries without repeated keys are determined by their keys and values.

Keys are compared by equality throughout.
-/

namespace ShapeInference

namespace Entries

variable {κ α β : Type}

/-- The keys of entries, in order. -/
def keys (entries : List (κ × α)) : List κ :=
  entries.map Prod.fst

@[simp] theorem keys_nil : keys ([] : List (κ × α)) = [] := rfl

@[simp] theorem keys_cons (key : κ) (value : α) (entries : List (κ × α)) :
    keys ((key, value) :: entries) = key :: keys entries := rfl

@[simp] theorem keys_append (xs ys : List (κ × α)) : keys (xs ++ ys) = keys xs ++ keys ys :=
  List.map_append

theorem forall_mem_cons {P : κ → α → Prop} {key : κ} {value : α} {rest : List (κ × α)} :
    (∀ k v, (k, v) ∈ (key, value) :: rest → P k v) ↔
      P key value ∧ ∀ k v, (k, v) ∈ rest → P k v := by
  constructor
  · intro h
    exact ⟨h key value List.mem_cons_self, fun k v hv => h k v (List.mem_cons_of_mem _ hv)⟩
  · rintro ⟨hvalue, hrest⟩ k v hv
    rcases List.mem_cons.mp hv with heq | hv
    · obtain ⟨rfl, rfl⟩ := Prod.mk.inj heq
      exact hvalue
    · exact hrest k v hv

/-- Entries whose values follow from their keys are told by the keys. -/
theorem eq_map_keys {f : κ → α} {entries : List (κ × α)}
    (h : ∀ key value, (key, value) ∈ entries → value = f key) :
    entries = (keys entries).map fun key => (key, f key) := by
  induction entries with
  | nil => rfl
  | cons entry rest ih =>
    obtain ⟨key, value⟩ := entry
    obtain ⟨hvalue, hrest⟩ := forall_mem_cons.mp h
    rw [keys_cons, List.map_cons, ← ih hrest, ← hvalue]

/-- What is found for a key is the value of the first entry that has it. -/
theorem first?_eq_some_iff {same : κ → κ → Bool} {key : κ} {value : α} {entries : List (κ × α)} :
    first? same key entries = some value ↔ ∃ before k after,
      entries = before ++ (k, value) :: after ∧ same k key = true ∧
        ∀ entry ∈ before, same entry.1 key = false := by
  have hfind : first? same key entries
      = (entries.find? fun entry => same entry.1 key).map Prod.snd := by
    induction entries with
    | nil => rfl
    | cons entry rest ih =>
      rw [first?, List.find?_cons, ih]
      cases same entry.1 key <;> rfl
  rw [hfind, Option.map_eq_some_iff]
  constructor
  · rintro ⟨⟨k, _⟩, hentry, rfl⟩
    obtain ⟨hk, before, after, hentries, hbefore⟩ := List.find?_eq_some_iff_append.mp hentry
    exact ⟨before, k, after, hentries, hk, fun entry h => by simpa using hbefore entry h⟩
  · rintro ⟨before, k, after, hentries, hk, hbefore⟩
    refine ⟨(k, value), List.find?_eq_some_iff_append.mpr ⟨hk, before, after, hentries, ?_⟩, rfl⟩
    exact fun entry h => by simp [hbefore entry h]

/-! ## Keys in the order of their first appearance -/

/-- What follows a head after its repetitions are removed is shorter than the whole. -/
theorem length_filter_lt_cons (p : κ → Bool) (x : κ) (rest : List κ) :
    (rest.filter p).length < (x :: rest).length :=
  Nat.lt_succ_of_le (List.length_filter_le p rest)

section FirstAppearance

variable [BEq κ] [LawfulBEq κ]

/-- What is left of a list after its repetitions are removed holds no repetition. -/
theorem nodup_eraseDups : ∀ xs : List κ, xs.eraseDups.Nodup
  | [] => by simp
  | x :: rest => by
    rw [List.eraseDups_cons]
    refine List.nodup_cons.mpr ⟨fun hx => ?_, nodup_eraseDups _⟩
    simp at hx
termination_by xs => xs.length
decreasing_by exact length_filter_lt_cons _ x rest

/-- A list without repetitions is left as it is. -/
theorem eraseDups_of_nodup {xs : List κ} (h : xs.Nodup) : xs.eraseDups = xs := by
  induction xs with
  | nil => rfl
  | cons x rest ih =>
    obtain ⟨hx, hrest⟩ := List.nodup_cons.mp h
    have hfilter : rest.filter (fun y => !y == x) = rest := by
      refine List.filter_eq_self.mpr fun y hy => ?_
      have hne : y ≠ x := fun e => hx (e ▸ hy)
      simpa using hne
    rw [List.eraseDups_cons, hfilter, ih hrest]

/-- Removing elements and removing repetitions can be done in either order. -/
theorem eraseDups_filter (p : κ → Bool) :
    ∀ xs : List κ, (xs.filter p).eraseDups = xs.eraseDups.filter p
  | [] => by simp
  | x :: rest => by
    have hrest := eraseDups_filter p (rest.filter fun y => !y == x)
    rw [List.eraseDups_cons]
    by_cases hp : p x
    · rw [List.filter_cons_of_pos hp, List.filter_cons_of_pos hp, List.eraseDups_cons, ← hrest,
        List.filter_filter, List.filter_filter]
      simp only [Bool.and_comm]
    · rw [List.filter_cons_of_neg hp, List.filter_cons_of_neg hp, ← hrest, List.filter_filter]
      congr 1
      refine List.filter_congr fun y _ => ?_
      -- the removed head is refused by the test anyway
      by_cases hy : y = x
      · subst hy
        simp [hp]
      · simp [hy]
termination_by xs => xs.length
decreasing_by exact length_filter_lt_cons _ x rest

/-- Repetitions in the left part do not matter. -/
theorem eraseDups_eraseDups_append (xs ys : List κ) :
    (xs.eraseDups ++ ys).eraseDups = (xs ++ ys).eraseDups := by
  rw [List.eraseDups_append, List.eraseDups_append, eraseDups_of_nodup (nodup_eraseDups xs)]
  congr 2
  refine List.filter_congr fun y _ => ?_
  simp

/-- Repetitions in the right part do not matter. -/
theorem eraseDups_append_eraseDups (xs ys : List κ) :
    (xs ++ ys.eraseDups).eraseDups = (xs ++ ys).eraseDups := by
  rw [List.eraseDups_append, List.eraseDups_append]
  unfold List.removeAll
  rw [eraseDups_filter, eraseDups_filter, eraseDups_of_nodup (nodup_eraseDups ys)]

end FirstAppearance

/-! ## Reading the value of a key -/

section Lookup

variable [DecidableEq κ]

/-- The value of the last entry for a key in two lists, one after the other. -/
theorem last?_append (key : κ) : ∀ xs ys : List (κ × α),
    last? (· = ·) key (xs ++ ys) = (last? (· = ·) key ys).or (last? (· = ·) key xs)
  | [], ys => by simp [last?]
  | (k, v) :: xs, ys => by
    rw [List.cons_append, last?, last?_append key xs ys, last?]
    cases last? (· = ·) key ys <;> rfl

/-- The value read for a key stands in one of its entries. -/
theorem mem_of_last? {key : κ} {value : α} : ∀ {entries : List (κ × α)},
    last? (· = ·) key entries = some value → (key, value) ∈ entries
  | (k, v) :: rest, h => by
    rw [last?] at h
    split at h
    next w hw =>
      obtain rfl : w = value := Option.some.inj h
      exact List.mem_cons_of_mem _ (mem_of_last? hw)
    next =>
      split at h
      next hk =>
        obtain rfl : k = key := of_decide_eq_true hk
        obtain rfl : v = value := Option.some.inj h
        exact List.mem_cons_self
      next => cases h

/-- A value is read for exactly the keys that have entries. -/
theorem isSome_last?_iff {key : κ} : ∀ {entries : List (κ × α)},
    (last? (· = ·) key entries).isSome ↔ key ∈ keys entries
  | [] => by simp [last?]
  | (k, v) :: rest => by
    have ih : (last? (· = ·) key rest).isSome ↔ key ∈ keys rest := isSome_last?_iff
    rw [last?, keys_cons, List.mem_cons, ← ih]
    cases last? (· = ·) key rest with
    | some w => simp
    | none =>
      by_cases hk : k = key
      · simp [hk]
      · have hne : key ≠ k := fun e => hk e.symm
        simp [hk, hne]

theorem last?_eq_none_iff {key : κ} {entries : List (κ × α)} :
    last? (· = ·) key entries = none ↔ key ∉ keys entries := by
  rw [← isSome_last?_iff, Option.not_isSome_iff_eq_none]

/-- When no key is repeated, the first entry for a key is the last one. -/
theorem first?_eq_last? {key : κ} : ∀ {entries : List (κ × α)}, (keys entries).Nodup →
    first? (· = ·) key entries = last? (· = ·) key entries
  | [], _ => rfl
  | (k, v) :: rest, h => by
    obtain ⟨hk, hrest⟩ := List.nodup_cons.mp h
    rw [first?, last?, first?_eq_last? hrest]
    by_cases hkey : k = key
    · subst hkey
      rw [last?_eq_none_iff.mpr hk]
    · cases last? (· = ·) key rest <;> simp [hkey]

/-- When no key is repeated, an entry holds the value that is read for its key. -/
theorem last?_eq_some_iff {key : κ} {value : α} {entries : List (κ × α)}
    (h : (keys entries).Nodup) :
    last? (· = ·) key entries = some value ↔ (key, value) ∈ entries := by
  refine ⟨mem_of_last?, fun hmem => ?_⟩
  induction entries with
  | nil => cases hmem
  | cons entry rest ih =>
    obtain ⟨k, v⟩ := entry
    obtain ⟨hk, hrest⟩ := List.nodup_cons.mp h
    rw [last?]
    rcases List.mem_cons.mp hmem with heq | hmem
    · obtain ⟨rfl, rfl⟩ := Prod.mk.inj heq
      simp [last?_eq_none_iff.mpr hk]
    · rw [ih hrest hmem]

/-- Reading after the values were changed, each by its key. -/
theorem last?_map (f : κ → α → β) (key : κ) : ∀ entries : List (κ × α),
    last? (· = ·) key (entries.map fun entry => (entry.1, f entry.1 entry.2))
      = (last? (· = ·) key entries).map (f key)
  | [] => rfl
  | (k, v) :: rest => by
    rw [List.map_cons, last?, last?_map f key rest, last?]
    cases last? (· = ·) key rest with
    | some w => rfl
    | none =>
      by_cases hk : k = key
      · subst hk
        simp
      · simp [hk]

/-- Reading after entries were taken out by their keys. -/
theorem last?_filter (p : κ → Bool) (key : κ) : ∀ entries : List (κ × α),
    last? (· = ·) key (entries.filter fun entry => p entry.1)
      = if p key then last? (· = ·) key entries else none
  | [] => by simp [last?]
  | (k, v) :: rest => by
    have ih := last?_filter p key rest
    rw [List.filter_cons]
    by_cases hp : p k
    · rw [if_pos hp, last?, ih, last?]
      by_cases hkey : p key
      · simp [hkey]
      · have hne : ¬k = key := fun e => hkey (e ▸ hp)
        simp [hkey, hne]
    · rw [if_neg hp, ih, last?]
      by_cases hkey : p key
      · have hne : ¬k = key := fun e => hp (e ▸ hkey)
        cases last? (· = ·) key rest <;> simp [hkey, hne]
      · simp [hkey]

/-- A key has an entry exactly if a search finds one. -/
theorem any_key_iff {key : κ} {entries : List (κ × α)} :
    (entries.any fun entry => entry.1 = key) = true ↔ key ∈ keys entries := by
  simp [keys]

/-- **Entries without repeated keys are determined** by their keys in order and by the values that
are read for them. -/
theorem ext_of_nodup : ∀ {xs ys : List (κ × α)}, (keys xs).Nodup → keys xs = keys ys →
    (∀ key, last? (· = ·) key xs = last? (· = ·) key ys) → xs = ys
  | [], [], _, _, _ => rfl
  | [], _ :: _, _, hkeys, _ => by cases hkeys
  | _ :: _, [], _, hkeys, _ => by cases hkeys
  | (k, v) :: xs, (k', w) :: ys, hnodup, hkeys, hread => by
    obtain ⟨rfl, hrest⟩ := List.cons.inj hkeys
    obtain ⟨hk, hxs⟩ := List.nodup_cons.mp hnodup
    have hkeys : keys xs = keys ys := hrest
    have hk' : k ∉ keys ys := by
      rw [← hkeys]
      exact hk
    have hv : v = w := by
      have := hread k
      simp only [last?, last?_eq_none_iff.mpr hk, last?_eq_none_iff.mpr hk'] at this
      simpa using this
    have htail : xs = ys := by
      refine ext_of_nodup hxs hkeys fun key => ?_
      by_cases hkey : k = key
      · subst hkey
        rw [last?_eq_none_iff.mpr hk, last?_eq_none_iff.mpr hk']
      · have := hread key
        simp only [last?, hkey] at this
        revert this
        cases last? (· = ·) key xs <;> cases last? (· = ·) key ys <;> simp
    rw [hv, htail]

end Lookup

/-! ## Collapsing -/

section Collapse

variable [DecidableEq κ]

/-- One more entry adds its key at the end unless the key is there already. -/
theorem keys_insert (key : κ) (value : α) : ∀ entries : List (κ × α),
    keys (insert (· = ·) key value entries)
      = if key ∈ keys entries then keys entries else keys entries ++ [key]
  | [] => rfl
  | (k, v) :: rest => by
    rw [insert]
    by_cases hk : k = key
    · simp [hk]
    · have hne : key ≠ k := fun e => hk e.symm
      simp only [hk, decide_false, Bool.false_eq_true, if_false, keys_cons, keys_insert key value
        rest, List.mem_cons, hne, false_or]
      split <;> rfl

/-- After one more entry its key has the new value, and other keys have what they had. -/
theorem first?_insert (key key' : κ) (value : α) : ∀ entries : List (κ × α),
    first? (· = ·) key' (insert (· = ·) key value entries)
      = if key = key' then some value else first? (· = ·) key' entries
  | [] => by simp [insert, first?]
  | (k, v) :: rest => by
    rw [insert]
    by_cases hk : k = key
    · subst hk
      by_cases hk' : k = key' <;> simp [first?, hk']
    · simp only [hk, decide_false, Bool.false_eq_true, if_false, first?,
        first?_insert key key' value rest]
      by_cases hk' : k = key'
      · have hne : ¬key = key' := fun e => hk (hk'.trans e.symm)
        simp [hk', hne]
      · simp [hk']

/-- One more entry repeats no key. -/
theorem nodup_insert {key : κ} {value : α} {entries : List (κ × α)} (h : (keys entries).Nodup) :
    (keys (insert (· = ·) key value entries)).Nodup := by
  rw [keys_insert]
  split
  next => exact h
  next hk =>
    refine List.nodup_append.mpr ⟨h, by simp, fun a ha b hb => ?_⟩
    rintro rfl
    exact hk (List.mem_singleton.mp hb ▸ ha)

/-- Collapsing repeats no key. -/
theorem nodup_collapse (entries : List (κ × α)) : (keys (collapse (· = ·) entries)).Nodup := by
  have hfold : ∀ (xs done : List (κ × α)), (keys done).Nodup →
      (keys (xs.foldl (fun done x => insert (· = ·) x.1 x.2 done) done)).Nodup := by
    intro xs
    induction xs with
    | nil => exact fun _ h => h
    | cons x xs ih => exact fun done h => ih _ (nodup_insert h)
  exact hfold entries [] List.nodup_nil

/-- Collapsing keeps for each key the value of its last entry. -/
theorem first?_collapse (key : κ) (entries : List (κ × α)) :
    first? (· = ·) key (collapse (· = ·) entries) = last? (· = ·) key entries := by
  have hfold : ∀ xs done : List (κ × α),
      first? (· = ·) key (xs.foldl (fun done x => insert (· = ·) x.1 x.2 done) done)
        = (last? (· = ·) key xs).or (first? (· = ·) key done) := by
    intro xs
    induction xs with
    | nil => exact fun _ => rfl
    | cons x xs ih =>
      intro done
      rw [List.foldl_cons, ih, first?_insert, last?]
      cases last? (· = ·) key xs with
      | some v => rfl
      | none => by_cases hk : x.1 = key <;> simp [hk]
  rw [collapse, hfold]
  exact Option.or_none

theorem last?_collapse (key : κ) (entries : List (κ × α)) :
    last? (· = ·) key (collapse (· = ·) entries) = last? (· = ·) key entries := by
  rw [← first?_eq_last? (nodup_collapse entries), first?_collapse]

/-- Collapsing keeps only entries that were there. -/
theorem mem_of_mem_collapse {entries : List (κ × α)} {key : κ} {value : α}
    (h : (key, value) ∈ collapse (· = ·) entries) : (key, value) ∈ entries := by
  rw [← last?_eq_some_iff (nodup_collapse entries), last?_collapse] at h
  exact mem_of_last? h

/-- Collapsing keeps the keys in the order of their first appearance. -/
theorem keys_collapse [BEq κ] [LawfulBEq κ] (entries : List (κ × α)) :
    keys (collapse (· = ·) entries) = (keys entries).eraseDups := by
  have hstep : ∀ (key : κ) (value : α) (done : List (κ × α)), (keys done).Nodup →
      keys (insert (· = ·) key value done) = (keys done ++ [key]).eraseDups := by
    intro key value done h
    rw [keys_insert, List.eraseDups_append, eraseDups_of_nodup h]
    by_cases hk : key ∈ keys done <;> simp [List.removeAll, List.eraseDups_cons, hk]
  have hfold : ∀ (xs done : List (κ × α)), (keys done).Nodup →
      keys (xs.foldl (fun done x => insert (· = ·) x.1 x.2 done) done)
        = (keys done ++ keys xs).eraseDups := by
    intro xs
    induction xs with
    | nil => exact fun done h => by simp [eraseDups_of_nodup h]
    | cons x xs ih =>
      intro done h
      rw [List.foldl_cons, ih _ (nodup_insert h), hstep _ _ _ h, eraseDups_eraseDups_append]
      simp [keys]
  rw [collapse, hfold entries [] List.nodup_nil]
  rfl

end Collapse

end Entries

end ShapeInference
