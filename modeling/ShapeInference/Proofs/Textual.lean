import ShapeInference.Proofs.Alike
import ShapeInference.Proofs.Outcome

/-!
# Values whose keys are texts

The keys of a dictionary can be anything that can be spelled, and keys with one spelling share a
member. Where all keys are texts, as in whatever is read from a document, a dictionary and its shape
agree key by key.

- `Value.isTextual`: whether the keys of all dictionaries are texts, each once;
- `Value.valueAt?`: the value at a key;
- `Value.lastMember?_shapeOf`: the member of a shape is the shape of the value at the key;
- `Value.memberNames_shapeOf`: the names of a shape are the keys in order.
-/

namespace ShapeInference

namespace Value

open Entries

/-! ## Textual keys -/

/-- Whether a key is a text, and is spelled as the text that it is. -/
def isTextKey (key : Value) : Bool :=
  key.asText?.isSome && decide (key.spell? = key.asText?)

/-- The entries of a dictionary with their keys as they are spelled. -/
def namedEntries (entries : List (Value × Value)) : List (Text × Value) :=
  entries.map fun entry => (memberName entry.1, entry.2)

mutual

/-- Whether the keys of all dictionaries that can be walked into are texts, and no dictionary has
one of them twice. -/
def isTextual : Value → Bool
  | list items => areTextual items
  | tuple items => areTextual items
  | dictionary entries => decide (keys (namedEntries entries)).Nodup && areEntriesTextual entries
  | _ => true

/-- Whether this holds of all elements. -/
def areTextual : List Value → Bool
  | [] => true
  | v :: rest => isTextual v && areTextual rest

/-- Whether the keys of entries are texts, and this holds of all values. -/
def areEntriesTextual : List (Value × Value) → Bool
  | [] => true
  | (key, v) :: rest => isTextKey key && isTextual v && areEntriesTextual rest

end

theorem areTextual_iff : ∀ {items : List Value},
    areTextual items = true ↔ ∀ w ∈ items, w.isTextual = true
  | [] => by simp [areTextual]
  | v :: rest => by
    rw [areTextual, Bool.and_eq_true, areTextual_iff, List.forall_mem_cons]

theorem areEntriesTextual_iff : ∀ {entries : List (Value × Value)},
    areEntriesTextual entries = true ↔
      ∀ key w, (key, w) ∈ entries → key.isTextKey = true ∧ w.isTextual = true
  | [] => by simp [areEntriesTextual]
  | (key, v) :: rest => by
    rw [areEntriesTextual, Bool.and_eq_true, Bool.and_eq_true, areEntriesTextual_iff,
      forall_mem_cons]

theorem isTextual_item {v w : Value} {items : List Value} (hv : v.isTextual = true)
    (h : v.items? = some items) (hw : w ∈ items) : w.isTextual = true := by
  rcases items?_eq_some_iff.mp h with rfl | rfl
  · exact areTextual_iff.mp hv w hw
  · exact areTextual_iff.mp hv w hw

section Dictionary

variable {v : Value} {entries : List (Value × Value)}

theorem isTextual_entry {key w : Value} (hv : v.isTextual = true) (h : v.entries? = some entries)
    (hw : (key, w) ∈ entries) : key.isTextKey = true ∧ w.isTextual = true := by
  obtain rfl := entries?_eq_some_iff.mp h
  rw [isTextual, Bool.and_eq_true] at hv
  exact areEntriesTextual_iff.mp hv.2 key w hw

theorem nodup_namedEntries (hv : v.isTextual = true) (h : v.entries? = some entries) :
    (keys (namedEntries entries)).Nodup := by
  obtain rfl := entries?_eq_some_iff.mp h
  rw [isTextual, Bool.and_eq_true] at hv
  exact of_decide_eq_true hv.1

end Dictionary

/-! ## The value at a key -/

theorem asText?_of_isTextKey {key : Value} (h : key.isTextKey = true) :
    key.asText? = some (memberName key) := by
  rw [isTextKey, Bool.and_eq_true] at h
  obtain ⟨t, ht⟩ := Option.isSome_iff_exists.mp h.1
  rw [memberName, of_decide_eq_true h.2, ht, Option.getD_some]

/-- A text finds the keys that are that text and no other. -/
theorem sameKey_text (key : Value) (name : Text) :
    sameKey key (text name) = decide (key.asText? = some name) := by
  have hname : (text name).asText? = some name := rfl
  cases htext : key.asText? with
  | some t =>
    unfold asText? at htext
    split at htext
    case h_5 => cases htext
    all_goals
      cases htext
      simp [sameKey, quantity?, asText?]
  | none =>
    unfold sameKey
    split
    all_goals simp_all [asTuple?, quantity?]

/-- In a dictionary with textual keys a value is found under the name of its member. -/
theorem lookup?_eq_first? {entries : List (Value × Value)}
    (h : ∀ entry ∈ entries, entry.1.isTextKey = true) (name : Text) :
    lookup? entries name = first? (· = ·) name (namedEntries entries) := by
  unfold lookup? namedEntries
  induction entries with
  | nil => rfl
  | cons entry rest ih =>
    obtain ⟨key, v⟩ := entry
    obtain ⟨hkey, hrest⟩ := List.forall_mem_cons.mp h
    rw [List.map_cons, first?, first?, ih hrest, sameKey_text, asText?_of_isTextKey hkey]
    simp only [Option.some.injEq]

/-- The value at a key of the dictionary that a value is. -/
def valueAt? (v : Value) (name : Text) : Option Value :=
  v.entries?.bind (lookup? · name)

theorem valueAt?_eq_last? {v : Value} {entries : List (Value × Value)} (hv : v.isTextual = true)
    (h : v.entries? = some entries) (name : Text) :
    v.valueAt? name = last? (· = ·) name (namedEntries entries) := by
  have hkeys : ∀ entry ∈ entries, entry.1.isTextKey = true := fun entry hentry =>
    (isTextual_entry hv h hentry).1
  rw [valueAt?, h, Option.bind_some, lookup?_eq_first? hkeys,
    first?_eq_last? (nodup_namedEntries hv h)]

/-- The value at a key is the value of an entry. -/
theorem valueAt?_eq_some_iff {v w : Value} {entries : List (Value × Value)}
    (hv : v.isTextual = true) (h : v.entries? = some entries) {name : Text} :
    v.valueAt? name = some w ↔ ∃ key, (key, w) ∈ entries ∧ memberName key = name := by
  rw [valueAt?_eq_last? hv h, last?_eq_some_iff (nodup_namedEntries hv h), namedEntries]
  constructor
  · intro hw
    obtain ⟨entry, hentry, heq⟩ := List.mem_map.mp hw
    obtain ⟨rfl, rfl⟩ := Prod.mk.inj heq
    exact ⟨entry.1, hentry, rfl⟩
  · rintro ⟨key, hkey, rfl⟩
    exact List.mem_map.mpr ⟨(key, w), hkey, rfl⟩

/-! ## The members of the shape of a dictionary -/

variable {s : Strategy} {v : Value}

/-- **A member of the shape** of a dictionary is the shape of the value at the key. -/
theorem lastMember?_shapeOf (hv : v.isTextual = true) (name : Text) :
    (shapeOf s v).lastMember? name = (v.valueAt? name).map (shapeOf s) := by
  rw [Shape.lastMember?, members_shapeOf]
  cases h : v.entries? with
  | none =>
    rw [valueAt?, h]
    rfl
  | some entries =>
    have hmap := last?_map (fun _ => shapeOf s) name (namedEntries entries)
    rw [namedEntries, List.map_map] at hmap
    rw [Option.map_some, Option.bind_some, last?_collapse, valueAt?_eq_last? hv h, namedEntries,
      ← hmap]
    rfl

/-- The names in the shape of a dictionary are its keys in order. -/
theorem memberNames_shapeOf (hv : v.isTextual = true) :
    (shapeOf s v).memberNames = keys (namedEntries (v.entries?.getD [])) := by
  rw [Shape.memberNames, members_shapeOf]
  cases h : v.entries? with
  | none => rfl
  | some entries =>
    have hkeys : keys (entries.map fun entry => (memberName entry.1, shapeOf s entry.2))
        = keys (namedEntries entries) := by
      unfold keys namedEntries
      rw [List.map_map, List.map_map]
      rfl
    rw [Option.map_some, Option.getD_some, Option.getD_some, ← keys, keys_collapse, hkeys,
      eraseDups_of_nodup (nodup_namedEntries hv h)]

end Value

end ShapeInference
