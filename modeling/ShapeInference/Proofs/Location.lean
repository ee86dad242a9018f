import ShapeInference.Proofs.Path
import ShapeInference.Proofs.Textual

/-!
# Locations

A value holds other values at locations, each told by the keys and indices that lead to it.
Classification mentions a location by the text of its path, when it reports an empty array or fails.
If the keys are texts, the steps of a path are the keys and indices themselves, so the text of the
path leads back to the one location that it was written for.

- `Value.HasAt`: a value holds another one at a path;
- `Value.isReadable`: all keys are texts, and none writes a code point as two halves of a surrogate
  pair;
- `Mentions`: the paths that a run mentions are among some;
- `Value.mentions_classifyAt`: classification mentions the locations of a value and no other path;
- `Value.reports_of_hasAt`: it comes by every location with its path, if it looks at all elements;
- `Value.paths_identify_locations`: the text of a path identifies a location.
-/

namespace ShapeInference

namespace Value

/-! ## Locations -/

/-- A value holds another one at a path: itself at the empty path, and whatever its elements and the
values at its keys hold. -/
inductive HasAt : Value → Path → Value → Prop
  | here (v : Value) : HasAt v [] v
  | element {v w x : Value} {items : List Value} {i : Nat} {path : Path}
      (hitems : v.items? = some items) (hw : items[i]? = some w) (h : HasAt w path x) :
      HasAt v (.element i :: path) x
  | member {v w x key : Value} {entries : List (Value × Value)} {name : Text} {path : Path}
      (hentries : v.entries? = some entries) (hw : (key, w) ∈ entries)
      (hkey : key.asText? = some name) (h : HasAt w path x) :
      HasAt v (.member name :: path) x

mutual

/-- Whether the keys of all dictionaries that can be walked into are texts, in which no first half
of a surrogate pair has a second half right after it. -/
def isReadable : Value → Bool
  | list items => areReadable items
  | tuple items => areReadable items
  | dictionary entries => areEntriesReadable entries
  | _ => true

/-- Whether this holds of all elements. -/
def areReadable : List Value → Bool
  | [] => true
  | v :: rest => isReadable v && areReadable rest

/-- Whether the keys of entries are such texts, and this holds of all values. -/
def areEntriesReadable : List (Value × Value) → Bool
  | [] => true
  | (key, v) :: rest =>
    isTextKey key && (memberName key).isUnpaired && isReadable v && areEntriesReadable rest

end

theorem areReadable_iff : ∀ {items : List Value},
    areReadable items = true ↔ ∀ w ∈ items, w.isReadable = true
  | [] => by simp [areReadable]
  | v :: rest => by
    rw [areReadable, Bool.and_eq_true, areReadable_iff, List.forall_mem_cons]

theorem areEntriesReadable_iff : ∀ {entries : List (Value × Value)},
    areEntriesReadable entries = true ↔ ∀ key w, (key, w) ∈ entries →
      (key.isTextKey = true ∧ (memberName key).isUnpaired = true) ∧ w.isReadable = true
  | [] => by simp [areEntriesReadable]
  | (key, v) :: rest => by
    rw [areEntriesReadable, Bool.and_eq_true, Bool.and_eq_true, Bool.and_eq_true,
      areEntriesReadable_iff, Entries.forall_mem_cons]

section Parts

variable {v w key : Value}

theorem isReadable_item {items : List Value} (hv : v.isReadable = true)
    (h : v.items? = some items) (hw : w ∈ items) : w.isReadable = true := by
  rcases items?_eq_some_iff.mp h with rfl | rfl
  · exact areReadable_iff.mp hv w hw
  · exact areReadable_iff.mp hv w hw

theorem isReadable_entry {entries : List (Value × Value)} (hv : v.isReadable = true)
    (h : v.entries? = some entries) (hw : (key, w) ∈ entries) :
    (key.isTextKey = true ∧ (memberName key).isUnpaired = true) ∧ w.isReadable = true := by
  obtain rfl := entries?_eq_some_iff.mp h
  exact areEntriesReadable_iff.mp hv key w hw

/-- The steps to a location can be read back. -/
theorem HasAt.isReadable {v w : Value} {path : Path} (h : v.HasAt path w)
    (hv : v.isReadable = true) : path.all Step.isReadable = true := by
  induction h with
  | here => rfl
  | element hitems hw _ ih =>
    exact ih (isReadable_item hv hitems (List.mem_of_getElem? hw))
  | member hentries hw hkey _ ih =>
    obtain ⟨⟨htext, hname⟩, hw⟩ := isReadable_entry hv hentries hw
    obtain rfl := Option.some.inj ((asText?_of_isTextKey htext).symm.trans hkey)
    rw [List.all_cons, ih hw, Bool.and_true]
    exact hname

end Parts

end Value

/-! ## What a run mentions -/

/-- The paths that a run mentions are among some: those in its reports, and the one in its failure
if it fails for a value that cannot be classified. -/
structure Mentions {α : Type} (run : Logged α) (P : Path → Prop) : Prop where
  reports : ∀ e ∈ run.events, ∃ path, P path ∧ e = .emptyArray path.write
  failure : ∀ className shown place, run.outcome = .error (.unsupported className shown place) →
    ∃ path, P path ∧ place = path.write

/-- A run reports an event, unless it fails. -/
def Reports {α : Type} (run : Logged α) (e : Event) : Prop :=
  ∀ a, run.outcome = .ok a → e ∈ run.events

variable {α β : Type} {run : Logged α} {next : α → Logged β} {P Q : Path → Prop} {e : Event}

namespace Mentions

theorem mono (h : Mentions run P) (hPQ : ∀ path, P path → Q path) : Mentions run Q where
  reports e he := by
    obtain ⟨path, hpath, rfl⟩ := h.reports e he
    exact ⟨path, hPQ path hpath, rfl⟩
  failure className shown place hfails := by
    obtain ⟨path, hpath, rfl⟩ := h.failure className shown place hfails
    exact ⟨path, hPQ path hpath, rfl⟩

theorem ends (a : α) : Mentions (pure a : Logged α) P where
  reports e he := by cases he
  failure _ _ _ h := by cases h

/-- A long numeral has no path. -/
theorem longNumeral : Mentions (.fail .longNumeral : Logged α) P where
  reports e he := by cases he
  failure _ _ _ h := by cases h

theorem unsupported {path : Path} (hpath : P path) (className shown : Text) :
    Mentions (.fail (.unsupported className shown path.write) : Logged α) P where
  reports e he := by cases he
  failure _ _ _ h := by
    cases h
    exact ⟨path, hpath, rfl⟩

theorem emptyArray {path : Path} (hpath : P path) :
    Mentions (.report (.emptyArray path.write)) P where
  reports e he := by
    obtain rfl := List.mem_singleton.mp he
    exact ⟨path, hpath, rfl⟩
  failure _ _ _ h := by cases h

/-- **Running one after the other** mentions what both runs mention. -/
theorem bind (hrun : Mentions run P) (hnext : ∀ a, run.outcome = .ok a → Mentions (next a) P) :
    Mentions (run >>= next) P := by
  cases houtcome : run.outcome with
  | error f =>
    refine ⟨fun e he => ?_, fun className shown place h => ?_⟩
    · rw [Logged.events_bind_of_error houtcome] at he
      exact hrun.reports e he
    · rw [Logged.outcome_bind_of_error houtcome] at h
      obtain rfl := Except.error.inj h
      exact hrun.failure className shown place houtcome
  | ok a =>
    have hnext := hnext a houtcome
    refine ⟨fun e he => ?_, fun className shown place h => ?_⟩
    · rw [Logged.events_bind_of_ok houtcome] at he
      rcases List.mem_append.mp he with he | he
      · exact hrun.reports e he
      · exact hnext.reports e he
    · rw [Logged.outcome_bind_of_ok houtcome] at h
      exact hnext.failure className shown place h

end Mentions

namespace Reports

/-- What the first run reports is reported. -/
theorem left (h : Reports run e) : Reports (run >>= next) e := by
  intro b hb
  obtain ⟨a, ha, -⟩ := Logged.bind_ok_iff.mp hb
  rw [Logged.events_bind_of_ok ha]
  exact List.mem_append_left _ (h a ha)

/-- What the second run reports is reported. -/
theorem right (h : ∀ a, run.outcome = .ok a → Reports (next a) e) : Reports (run >>= next) e := by
  intro b hb
  obtain ⟨a, ha, hnext⟩ := Logged.bind_ok_iff.mp hb
  rw [Logged.events_bind_of_ok ha]
  exact List.mem_append_right _ (h a ha b hnext)

end Reports

namespace Value

variable {s : Strategy} {path : Path}

/-! ## What classification mentions -/

theorem mentions_spellKey (key : Value) (P : Path → Prop) : Mentions key.spellKey P := by
  unfold spellKey
  split
  · exact .ends _
  · exact .longNumeral

theorem mentions_classifyLeaf (v : Value) {P : Path → Prop} (hpath : P path) :
    Mentions (classifyLeaf v path) P := by
  unfold classifyLeaf
  split
  · exact .ends _
  · exact .ends _
  · unfold refuse
    split
    · exact .unsupported hpath _ _
    · exact .longNumeral

theorem mentions_reportEmpty (items : List Value) {P : Path → Prop} (hpath : P path) :
    Mentions (reportEmpty items path) P := by
  unfold reportEmpty
  split
  · exact .emptyArray hpath
  · exact .ends ()

theorem mentions_classifyItems {P : Path → Prop} (length : Nat) {items : List Value} {i : Nat}
    (h : ∀ (j : Nat) (w : Value), items[j]? = some w →
      Mentions (classifyAt s (path ++ [.element (i + j)]) w) P) :
    Mentions (classifyItems s path length i items) P := by
  induction items generalizing i with
  | nil =>
    rw [classifyItems]
    exact .ends []
  | cons v rest ih =>
    have hrest : Mentions (classifyItems s path length (i + 1) rest) P := by
      refine ih fun j w hw => ?_
      have hlater := h (j + 1) w (by simpa using hw)
      rwa [← Nat.add_assoc, Nat.add_right_comm] at hlater
    rw [classifyItems]
    split
    · exact (h 0 v rfl).bind fun shape _ => hrest.bind fun shapes _ => .ends _
    · exact hrest

theorem mentions_classifyEntries {P : Path → Prop} {entries : List (Value × Value)}
    (h : ∀ key w, (key, w) ∈ entries →
      Mentions (classifyAt s (path ++ [.member (memberName key)]) w) P) :
    Mentions (classifyEntries s path entries) P := by
  induction entries with
  | nil =>
    rw [classifyEntries]
    exact .ends []
  | cons entry rest ih =>
    obtain ⟨key, v⟩ := entry
    obtain ⟨hv, hrest⟩ := Entries.forall_mem_cons.mp h
    rw [classifyEntries]
    refine (mentions_spellKey key P).bind fun name hname => ?_
    obtain ⟨-, rfl⟩ := spellKey_ok_iff.mp hname
    exact hv.bind fun shape _ => (ih hrest).bind fun members _ => .ends _

/-- A path that leads on from another one to a location of a value. -/
def LeadsInto (v : Value) (path q : Path) : Prop :=
  ∃ inside w, v.HasAt inside w ∧ q = path ++ inside

/-- **Classification mentions locations** and no other paths. -/
theorem mentions_classifyAt (v : Value) : v.isReadable = true →
    ∀ path, Mentions (classifyAt s path v) (LeadsInto v path) := by
  induction v using walk_induction with
  | array v items hitems ih =>
    intro hv path
    have hhere : LeadsInto v path path := ⟨[], v, .here v, (List.append_nil path).symm⟩
    have hitem : ∀ (j : Nat) (w : Value), items[j]? = some w →
        Mentions (classifyAt s (path ++ [.element (0 + j)]) w) (LeadsInto v path) := by
      intro j w hw
      have hmem := List.mem_of_getElem? hw
      refine (ih w hmem (isReadable_item hv hitems hmem) _).mono ?_
      rintro q ⟨inside, x, hx, rfl⟩
      refine ⟨.element j :: inside, x, .element hitems hw hx, ?_⟩
      rw [Nat.zero_add, List.append_assoc, List.singleton_append]
    have hrun := mentions_classifyItems items.length hitem
    rcases items?_eq_some_iff.mp hitems with rfl | rfl <;>
    · rw [classifyAt]
      exact (mentions_reportEmpty items hhere).bind fun _ _ => hrun.bind fun _ _ => .ends _
  | object v entries hentries ih =>
    intro hv path
    obtain rfl := entries?_eq_some_iff.mp hentries
    have hentry : ∀ key w, (key, w) ∈ entries →
        Mentions (classifyAt s (path ++ [.member (memberName key)]) w)
          (LeadsInto (dictionary entries) path) := by
      intro key w hw
      obtain ⟨⟨htext, -⟩, hreadable⟩ := isReadable_entry hv hentries hw
      refine (ih key w hw hreadable _).mono ?_
      rintro q ⟨inside, x, hx, rfl⟩
      refine ⟨.member (memberName key) :: inside, x,
        .member hentries hw (asText?_of_isTextKey htext) hx, ?_⟩
      rw [List.append_assoc, List.singleton_append]
    rw [classifyAt]
    exact (mentions_classifyEntries hentry).bind fun _ _ => .ends _
  | leaf v hitems hentries =>
    intro _ path
    rw [classifyAt_of_leaf hitems hentries]
    exact mentions_classifyLeaf v ⟨[], v, .here v, (List.append_nil path).symm⟩

/-! ## What classification reports -/

theorem reports_classifyItems {e : Event} (length : Nat) {items : List Value} {i j : Nat}
    {w : Value} (hw : items[j]? = some w)
    (h : Reports (classifyAt .all (path ++ [.element (i + j)]) w) e) :
    Reports (classifyItems .all path length i items) e := by
  induction items generalizing i j with
  | nil => cases hw
  | cons v rest ih =>
    have hpicks : Strategy.all.picks length i = true := rfl
    rw [classifyItems, if_pos hpicks]
    cases j with
    | zero =>
      obtain rfl := Option.some.inj hw
      exact h.left
    | succ j =>
      have hrest : Reports (classifyItems .all path length (i + 1) rest) e := by
        refine ih (by simpa using hw) ?_
        rwa [Nat.add_right_comm, Nat.add_assoc]
      exact .right fun _ _ => hrest.left

theorem reports_classifyEntries {e : Event} {entries : List (Value × Value)} {key w : Value}
    (hw : (key, w) ∈ entries)
    (h : Reports (classifyAt s (path ++ [.member (memberName key)]) w) e) :
    Reports (classifyEntries s path entries) e := by
  induction entries with
  | nil => cases hw
  | cons entry rest ih =>
    obtain ⟨key', v⟩ := entry
    rw [classifyEntries]
    refine .right fun name hname => ?_
    obtain ⟨-, rfl⟩ := spellKey_ok_iff.mp hname
    rcases List.mem_cons.mp hw with heq | hrest
    · obtain ⟨rfl, rfl⟩ := Prod.mk.inj heq
      exact h.left
    · exact .right fun _ _ => (ih hrest).left

/-- **Classification comes by every location** with its path, if it looks at all elements: unless
it fails, it reports all that is reported from there on. -/
theorem reports_of_hasAt {e : Event} {v w : Value} {inside : Path} (h : v.HasAt inside w) :
    v.isReadable = true → ∀ path, Reports (classifyAt .all (path ++ inside) w) e →
      Reports (classifyAt .all path v) e := by
  induction h with
  | here v =>
    intro _ path he
    rwa [List.append_nil] at he
  | @element v w x items i inside hitems hw _ ih =>
    intro hv path he
    have hitem := ih (isReadable_item hv hitems (List.mem_of_getElem? hw)) (path ++ [.element i])
    rw [List.append_assoc, List.singleton_append] at hitem
    have hitem := hitem he
    have hrun := reports_classifyItems items.length (i := 0) hw (by rwa [Nat.zero_add])
    rcases items?_eq_some_iff.mp hitems with rfl | rfl <;>
    · rw [classifyAt]
      exact .right fun _ _ => hrun.left
  | @member v w x key entries name inside hentries hw hkey _ ih =>
    intro hv path he
    obtain ⟨⟨htext, -⟩, hreadable⟩ := isReadable_entry hv hentries hw
    obtain rfl := Option.some.inj ((asText?_of_isTextKey htext).symm.trans hkey)
    have hentry := ih hreadable (path ++ [.member (memberName key)])
    rw [List.append_assoc, List.singleton_append] at hentry
    obtain rfl := entries?_eq_some_iff.mp hentries
    rw [classifyAt]
    exact (reports_classifyEntries hw (hentry he)).left

/-- An empty array is reported with its path. -/
theorem reports_emptyArray {v : Value} (h : v.items? = some []) (path : Path) :
    Reports (classifyAt s path v) (.emptyArray path.write) := by
  have hreport : Reports (reportEmpty [] path) (.emptyArray path.write) :=
    fun _ _ => List.mem_singleton_self _
  rcases items?_eq_some_iff.mp h with rfl | rfl <;>
  · rw [classifyAt]
    exact hreport.left

/-- **Paths identify locations.** Let all keys of a value be texts in which no first half of a
surrogate pair has a second half right after it. Then the path of a location is written in ASCII and
read back, step by step, as the keys and indices that lead there, so the texts of different
locations are different. They are the texts that classification makes: whatever it reports or fails
for is at a location, it comes by every location with its path if it looks at all elements, and then
it reports every empty array unless it fails. -/
theorem paths_identify_locations {v : Value} (hv : v.isReadable = true) :
    (∀ p w, v.HasAt p w → p.write.isAscii = true ∧ Path.read? p.write = some p) ∧
    (∀ p q w x, v.HasAt p w → v.HasAt q x → p ≠ q → p.write ≠ q.write) ∧
    (∀ s, Mentions (v.classify s) fun p => ∃ w, v.HasAt p w) ∧
    (∀ p w e, v.HasAt p w → Reports (classifyAt .all p w) e → Reports (v.classify .all) e) ∧
    ∀ p w, v.HasAt p w → w.items? = some [] →
      Reports (v.classify .all) (.emptyArray p.write) := by
  have hread : ∀ p w, v.HasAt p w → Path.read? p.write = some p := fun p w h =>
    Path.read?_write (h.isReadable hv)
  have hreports : ∀ p w e, v.HasAt p w → Reports (classifyAt .all p w) e →
      Reports (v.classify .all) e := fun p w e h => reports_of_hasAt h hv []
  refine ⟨fun p w h => ⟨p.isAscii_write, hread p w h⟩, fun p q w x hp hq hne heq => ?_,
    fun s => ?_, hreports, fun p w h hempty => hreports p w _ h (reports_emptyArray hempty p)⟩
  · have hsame := hread p w hp
    rw [heq, hread q x hq] at hsame
    exact hne (Option.some.inj hsame).symm
  · refine (mentions_classifyAt v hv []).mono ?_
    rintro q ⟨inside, w, hw, rfl⟩
    exact ⟨w, hw⟩

/-- A value with an array at a key and an index, and another one at a key that is written as these
two steps are. -/
def keyLikeSteps : Value :=
  dictionary [(text "a", tuple [list []]), (text "a[0]", list []), (text "\"", list [null])]

theorem paths_identify_locations_of_key_like_steps :
    keyLikeSteps.isReadable = true ∧
    keyLikeSteps.HasAt [.member "a", .element 0] (list []) ∧
    keyLikeSteps.HasAt [.member "a[0]"] (list []) ∧
    Path.write [.member "a", .element 0] ≠ Path.write [.member "a[0]"] ∧
    Path.read? ("$[\"a[0]\"]" : Text) = some [.member "a[0]"] ∧
    Reports (keyLikeSteps.classify .all) (.emptyArray "$[\"a[0]\"]") ∧
    (keyLikeSteps.classify .all).events =
      [.emptyArray ("$.a[0]" : Text), .emptyArray ("$[\"a[0]\"]" : Text)] := by
  have hv : keyLikeSteps.isReadable = true := by decide
  have hsteps : keyLikeSteps.HasAt [.member "a", .element 0] (list []) :=
    .member rfl List.mem_cons_self rfl (.element rfl rfl (.here _))
  have hkey : keyLikeSteps.HasAt [.member "a[0]"] (list []) :=
    .member rfl (List.mem_cons_of_mem _ List.mem_cons_self) rfl (.here _)
  obtain ⟨hread, hne, -, -, hreports⟩ := paths_identify_locations hv
  exact ⟨hv, hsteps, hkey, hne _ _ _ _ hsteps hkey (by decide), (hread _ _ hkey).2,
    hreports _ _ hkey rfl, rfl⟩

end Value

end ShapeInference
