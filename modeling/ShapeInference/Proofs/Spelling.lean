import ShapeInference.Proofs.Outcome

/-!
# Keys that are spelled alike

Different keys of a dictionary may have one spelling, such as nothing and the text `None`, and then
they share a member. The walk goes into all of their values nevertheless, and only afterwards the
shape of the last one replaces those of the others, at the place of the first one.

- `Entries.last?_append_cons`: which entry is the last one for a key;
- `Value.exists_classify_iff`: classification returns exactly if all that is looked at can be
  classified;
- `Value.keys_memberShapes`: members are named as the keys are spelled;
- `Value.keys_spelled_alike_collapse`: when the classification of a dictionary returns, and the
  names and shapes of its members then.
-/

namespace ShapeInference

namespace Entries

variable {κ α : Type} [DecidableEq κ]

/-- The last entry for a key is the one after which the key does not come again. -/
theorem last?_append_cons {key : κ} {after : List (κ × α)} (h : key ∉ keys after)
    (before : List (κ × α)) (value : α) :
    last? (· = ·) key (before ++ (key, value) :: after) = some value := by
  rw [last?_append, last?, last?_eq_none_iff.mpr h]
  simp

end Entries

namespace Value

open Entries

variable {s : Strategy}

theorem exists_classify_iff {v : Value} :
    (∃ t, (v.classify s).outcome = .ok t) ↔ v.isCovered s = true := by
  constructor
  · rintro ⟨t, ht⟩
    exact (classify_ok_iff.mp ht).1
  · intro h
    exact ⟨shapeOf s v, classify_ok_iff.mpr ⟨h, rfl⟩⟩

theorem memberName_eq {key : Value} {name : Text} (h : key.spell? = some name) :
    memberName key = name := by
  rw [memberName, h, Option.getD_some]

/-- Members are named as the keys are spelled, if all keys can be spelled. -/
theorem keys_memberShapes {entries : List (Value × Value)}
    (h : ∀ entry ∈ entries, entry.1.spell?.isSome = true) :
    keys (entries.map fun entry => (memberName entry.1, shapeOf s entry.2))
      = entries.filterMap fun entry => entry.1.spell? := by
  induction entries with
  | nil => rfl
  | cons entry rest ih =>
    obtain ⟨hkey, hrest⟩ := List.forall_mem_cons.mp h
    obtain ⟨name, hname⟩ := Option.isSome_iff_exists.mp hkey
    rw [List.map_cons, keys_cons, ih hrest, memberName_eq hname]
    exact (List.filterMap_cons_some (f := fun entry : Value × Value => entry.1.spell?) hname).symm

/-- A member has the shape of the last value whose key is spelled like its name. -/
theorem member?_shapeOf_of_last {before after : List (Value × Value)} {key v : Value} {name : Text}
    (h : ∀ entry ∈ after, entry.1.spell?.isSome = true) (hname : key.spell? = some name)
    (hafter : ∀ entry ∈ after, entry.1.spell? ≠ some name) :
    (shapeOf s (dictionary (before ++ (key, v) :: after))).member? name = some (shapeOf s v) := by
  have hlast : name ∉ keys (after.map fun entry => (memberName entry.1, shapeOf s entry.2)) := by
    rw [keys_memberShapes h, List.mem_filterMap]
    rintro ⟨entry, hentry, hspelled⟩
    exact hafter entry hentry hspelled
  rw [shapeOf_of_entries rfl]
  show first? (· = ·) name (collapse (· = ·) _) = _
  rw [first?_collapse, List.map_append, List.map_cons, memberName_eq hname]
  exact last?_append_cons hlast _ _

/-- **Keys that are spelled alike collapse**: if all keys of a dictionary can be spelled, its
classification returns exactly if that of every value in it does, be it replaced later or not. The
names of the members are then the different spellings in the order of their first appearance, and a
member has the shape of the last value whose key is spelled so. -/
theorem keys_spelled_alike_collapse {entries : List (Value × Value)}
    (h : ∀ entry ∈ entries, entry.1.spell?.isSome = true) :
    ((∃ t, ((dictionary entries).classify s).outcome = .ok t) ↔
      ∀ entry ∈ entries, ∃ x, (entry.2.classify s).outcome = .ok x) ∧
    ∀ t, ((dictionary entries).classify s).outcome = .ok t →
      ∃ members, t = .objectOf members ∧
        keys members = (entries.filterMap fun entry => entry.1.spell?).eraseDups ∧
        ∀ before key v after name, entries = before ++ (key, v) :: after →
          key.spell? = some name → (∀ entry ∈ after, entry.1.spell? ≠ some name) →
            ∃ x, (v.classify s).outcome = .ok x ∧ t.member? name = some x := by
  have hcovered := isCovered_of_entries (s := s) (v := dictionary entries) rfl
  constructor
  · rw [exists_classify_iff, hcovered]
    constructor
    · rintro hall ⟨key, v⟩ hv
      exact exists_classify_iff.mpr (hall key v hv).2
    · intro hall key v hv
      exact ⟨h (key, v) hv, exists_classify_iff.mp (hall (key, v) hv)⟩
  · intro t ht
    obtain ⟨hall, rfl⟩ := classify_ok_iff.mp ht
    rw [hcovered] at hall
    refine ⟨_, shapeOf_of_entries rfl, ?_, ?_⟩
    · rw [keys_collapse, keys_memberShapes h]
    · rintro before key v after name rfl hname hafter
      have hv := (hall key v (List.mem_append_right _ List.mem_cons_self)).2
      have hlater := (List.forall_mem_cons.mp (List.forall_mem_append.mp h).2).2
      exact ⟨shapeOf s v, classify_ok_iff.mpr ⟨hv, rfl⟩,
        member?_shapeOf_of_last hlater hname hafter⟩

/-- Entries with two spellings for four keys. -/
def alikeEntries : List (Value × Value) :=
  [(int 1, list []), (null, text "x"), (text "1", int 7), (text "None", list [null])]

/-- Entries whose first value is replaced, although it cannot be classified. -/
def replacedSet : List (Value × Value) :=
  [(int 1, set false []), (text "1", int 7)]

theorem keys_spelled_alike_collapse_of_replaced_values :
    (∀ entry ∈ alikeEntries, entry.1.spell?.isSome = true) ∧
    (∀ entry ∈ replacedSet, entry.1.spell?.isSome = true) ∧
    (∃ t, ((dictionary alikeEntries).classify .all).outcome = .ok t ∧
      t.memberNames = ["1", "None"] ∧ t.member? "1" = some (.simple .number) ∧
      t.member? "None" = some (.arrayOf (.simple .null))) ∧
    ¬∃ t, ((dictionary replacedSet).classify .all).outcome = .ok t := by
  have halike : ∀ entry ∈ alikeEntries, entry.1.spell?.isSome = true := by decide +kernel
  have hreplaced : ∀ entry ∈ replacedSet, entry.1.spell?.isSome = true := by decide +kernel
  obtain ⟨hreturns, hmembers⟩ := keys_spelled_alike_collapse (s := .all) halike
  obtain ⟨hreturns', -⟩ := keys_spelled_alike_collapse (s := .all) hreplaced
  refine ⟨halike, hreplaced, ?_, fun hreturn => ?_⟩
  · have hcovered : ∀ entry ∈ alikeEntries, entry.2.isCovered .all = true := by decide +kernel
    obtain ⟨t, ht⟩ := hreturns.mpr fun entry hv => exists_classify_iff.mpr (hcovered entry hv)
    obtain ⟨members, rfl, hnames, hlast⟩ := hmembers t ht
    obtain ⟨x, hx, hone⟩ := hlast [_, _] _ (int 7) [_] "1" rfl rfl (by decide)
    obtain ⟨y, hy, hnone⟩ := hlast [_, _, _] _ (list [null]) [] "None" rfl rfl (by decide)
    obtain ⟨-, rfl⟩ := classify_ok_iff.mp hx
    obtain ⟨-, rfl⟩ := classify_ok_iff.mp hy
    exact ⟨_, ht, hnames.trans (by decide +kernel), hone, hnone⟩
  · obtain ⟨t, ht⟩ := hreturns'.mp hreturn _ List.mem_cons_self
    cases ht

end Value

end ShapeInference
