import ShapeInference.Proofs.Settings
import ShapeInference.Proofs.Textual

/-!
# Looking up one name after another

A name with points leads into a configuration step by step. Looking up the part before a point and
then, in what was found, the part after it is looking up the whole name: whether a part leads
nowhere, to what does not count as given, or to what is no dictionary, there is nothing behind it.

- `Text.splitOn_append`: the pieces of two texts with a separator between them;
- `Value.entries_eq_nil`: a dictionary that does not count as given is empty;
- `Config.find?_append`, `Yaml.Document.find?_append`: lists of keys one after the other;
- `Config.Has`, `Config.Leads`: what a dictionary has for a key, and where keys lead;
- `Config.ofPart`: the configuration for a part of a document;
- `Config.dotted_lookup_composes`: looking up a name with a point is looking up twice, and what is
  found is either where the name leads or the default.
-/

namespace ShapeInference

namespace Text

theorem splitOn_ne_nil (separator : CodePoint) (t : Text) : splitOn separator t ≠ [] := by
  cases t with
  | nil => exact List.cons_ne_nil _ _
  | cons c rest =>
    rw [splitOn]
    split
    · exact List.cons_ne_nil _ _
    · split <;> exact List.cons_ne_nil _ _

/-- **The pieces of two texts** with a separator between them are the pieces of both. -/
theorem splitOn_append (separator : CodePoint) (t u : Text) :
    splitOn separator (t ++ separator :: u) = splitOn separator t ++ splitOn separator u := by
  induction t with
  | nil =>
    obtain ⟨piece, pieces, hu⟩ := List.exists_cons_of_ne_nil (splitOn_ne_nil separator u)
    rw [List.nil_append, splitOn, splitOn, hu]
    exact if_pos rfl
  | cons c rest ih =>
    obtain ⟨piece, pieces, hrest⟩ := List.exists_cons_of_ne_nil (splitOn_ne_nil separator rest)
    rw [List.cons_append, splitOn, ih, splitOn, hrest, List.cons_append]
    by_cases hc : c = separator
    · simp only [hc, if_true]
      rfl
    · simp only [hc, if_false]
      rfl

end Text

namespace Value

/-- A dictionary that does not count as given is empty. -/
theorem entries_eq_nil {v : Value} {entries : List (Value × Value)}
    (h : v.asEntries? = some entries) (hempty : v.isTruthy = false) : entries = [] := by
  unfold asEntries? at h
  split at h
  case h_4 => cases h
  all_goals
    obtain rfl := Option.some.inj h
    simpa [isTruthy] using hempty

end Value

/-! ## Keys one after the other -/

namespace Yaml

namespace Document

variable (d : Document)

theorem find?_append (keys more : List Text) (i : Item) :
    d.find? (keys ++ more) i = (d.find? keys i).bind (d.find? more) := by
  induction keys generalizing i with
  | nil => rfl
  | cons key keys ih => simp only [List.cons_append, find?, Option.bind_assoc, ih]

/-- Which part a document is as a whole does not matter inside it. -/
theorem find?_withRoot (root : Item) (keys : List Text) (i : Item) :
    ({ d with root := root } : Document).find? keys i = d.find? keys i := by
  induction keys generalizing i with
  | nil => rfl
  | cons key keys ih =>
    have hentries : ({ d with root := root } : Document).entries? i = d.entries? i := by
      cases i <;> rfl
    simp only [find?, hentries, ih]

theorem valueInside_withRoot (root : Item) (fuel : Nat) (around : List Nat) (i : Item) :
    ({ d with root := root } : Document).valueInside fuel around i
      = d.valueInside fuel around i := by
  induction fuel generalizing around i with
  | zero => cases i <;> rfl
  | succ fuel ih =>
    cases i with
    | atom a => rfl
    | container number =>
      have hinside : ({ d with root := root } : Document).valueInside fuel (number :: around)
          = d.valueInside fuel (number :: around) := funext fun j => ih (number :: around) j
      simp only [valueInside, hinside]

theorem value_withRoot (root i : Item) :
    ({ d with root := root } : Document).value i = d.value i :=
  d.valueInside_withRoot root _ [] i

end Document

end Yaml

namespace Config

theorem find?_append (keys more : List Text) (v : Value) :
    find? (keys ++ more) v = (find? keys v).bind (find? more) := by
  induction keys generalizing v with
  | nil => rfl
  | cons key keys ih => simp only [List.cons_append, find?, Option.bind_assoc, ih]

/-- A dictionary has a value for a text if the first of its entries with that text for its key holds
the value. -/
def Has (v : Value) (key : Text) (w : Value) : Prop :=
  ∃ before k after, v.asEntries? = some (before ++ (k, w) :: after) ∧ k.asText? = some key ∧
    ∀ entry ∈ before, entry.1.asText? ≠ some key

/-- Keys lead from one value to another: each to what a dictionary has for it. -/
inductive Leads : Value → List Text → Value → Prop
  | here (v : Value) : Leads v [] v
  | step {v w x : Value} {key : Text} {keys : List Text} (hw : Has v key w)
      (h : Leads w keys x) : Leads v (key :: keys) x

/-- **One key is followed** to what a dictionary has for it. -/
theorem lookup?_eq_some_iff {v w : Value} {key : Text} :
    v.asEntries?.bind (Value.lookup? · key) = some w ↔ Has v key w := by
  simp only [Option.bind_eq_some_iff, Value.lookup?, Entries.first?_eq_some_iff,
    Value.sameKey_text, decide_eq_true_eq, decide_eq_false_iff_not]
  constructor
  · rintro ⟨_, hentries, before, k, after, rfl, hk, hbefore⟩
    exact ⟨before, k, after, hentries, hk, hbefore⟩
  · rintro ⟨before, k, after, hentries, hk, hbefore⟩
    exact ⟨_, hentries, before, k, after, rfl, hk, hbefore⟩

/-- **Keys lead** where following them ends. -/
theorem find?_eq_some_iff {keys : List Text} {v x : Value} :
    find? keys v = some x ↔ Leads v keys x := by
  constructor
  · intro h
    induction keys generalizing v with
    | nil =>
      obtain rfl := Option.some.inj h
      exact .here v
    | cons key keys ih =>
      obtain ⟨w, hw, hx⟩ := Option.bind_eq_some_iff.mp h
      exact .step (lookup?_eq_some_iff.mp hw) (ih hx)
  · intro h
    induction h with
    | here v => rfl
    | step hw _ ih => rw [find?, lookup?_eq_some_iff.mpr hw, Option.bind_some, ih]

/-- Nothing is behind a value that does not count as given. -/
theorem find?_of_not_isTruthy {keys : List Text} (hkeys : keys ≠ []) {v : Value}
    (hempty : v.isTruthy = false) : find? keys v = none := by
  obtain ⟨key, keys, rfl⟩ := List.exists_cons_of_ne_nil hkeys
  rw [find?]
  cases hentries : v.asEntries? with
  | none => rfl
  | some entries =>
    rw [Value.entries_eq_nil hentries hempty]
    rfl

/-- So it does not matter that an empty dictionary is put in its place. -/
theorem at?_ofValue {keys : List Text} (hkeys : keys ≠ []) (v : Value) :
    (ofValue v).at? keys = find? keys v := by
  unfold ofValue
  by_cases htruthy : v.isTruthy
  · rw [if_pos htruthy]
    rfl
  · rw [if_neg htruthy, find?_of_not_isTruthy hkeys (eq_false_of_ne_true htruthy)]
    exact find?_of_not_isTruthy hkeys rfl

theorem get_ofValue (v : Value) (name : Text) (default : Value) :
    (ofValue v).get name default = (find? (name.splitOn '.') v).getD default := by
  rw [get_eq, at?_ofValue (Text.splitOn_ne_nil _ _)]

theorem splitOn_dotted (p q : Text) :
    (p ++ ("." : Text) ++ q).splitOn '.' = p.splitOn '.' ++ q.splitOn '.' := by
  rw [List.append_assoc]
  exact Text.splitOn_append '.' p q

/-! ## Names one after the other -/

/-- In a value: what is not there, or does not count as given, is as good as an empty dictionary. -/
theorem get_dotted_ofValue (data : Value) (p q : Text) (default : Value) :
    (ofValue data).get (p ++ ("." : Text) ++ q) default
      = (ofValue ((ofValue data).get p .null)).get q default := by
  rw [get_ofValue, get_ofValue, get_ofValue, splitOn_dotted, find?_append]
  cases find? (p.splitOn '.') data with
  | some w => rfl
  | none =>
    rw [Option.getD_none, find?_of_not_isTruthy (Text.splitOn_ne_nil _ _) rfl]
    rfl

/-- The configuration for a part of a document. It stays a part of the document, since it may have
parts inside themselves. -/
def ofPart (d : Yaml.Document) (part : Option Yaml.Item) : Config :=
  match part with
  | some i => document { d with root := i }
  | none => empty

theorem get_dotted_document (d : Yaml.Document) (p q : Text) (default : Value) :
    (document d).get (p ++ ("." : Text) ++ q) default
      = (ofPart d (d.find? (p.splitOn '.') d.root)).get q default := by
  rw [get_eq, at?, splitOn_dotted, Yaml.Document.find?_append]
  cases d.find? (p.splitOn '.') d.root with
  | some i =>
    have hvalue : ({ d with root := i } : Yaml.Document).value = d.value :=
      funext (d.value_withRoot i)
    rw [ofPart, get_eq, at?, Option.bind_some, d.find?_withRoot i, hvalue]
  | none =>
    rw [ofPart, get_eq, empty, at?, find?_of_not_isTruthy (Text.splitOn_ne_nil _ _) rfl]
    rfl

/-- What is found is where the whole name leads, or the default if it leads nowhere. -/
theorem get_leads_or_default (data : Value) (name : Text) (default : Value) :
    (∃ x, Leads data (name.splitOn '.') x ∧ (ofValue data).get name default = x) ∨
      ((¬∃ x, Leads data (name.splitOn '.') x) ∧ (ofValue data).get name default = default) := by
  rw [get_ofValue]
  cases hfound : find? (name.splitOn '.') data with
  | some x => exact .inl ⟨x, find?_eq_some_iff.mp hfound, rfl⟩
  | none =>
    refine .inr ⟨?_, rfl⟩
    rintro ⟨x, hx⟩
    cases hfound.symm.trans (find?_eq_some_iff.mpr hx)

/-- **Looking up a name with a point** is looking up what is before it, and in what was found there
what is after it, in a value as well as in a document. Where the name leads to something, that is
found; otherwise it is the default, and never what only a part of the name leads to. -/
theorem dotted_lookup_composes (p q : Text) (default : Value) :
    (∀ data, (ofValue data).get (p ++ ("." : Text) ++ q) default
      = (ofValue ((ofValue data).get p .null)).get q default) ∧
    (∀ d, (document d).get (p ++ ("." : Text) ++ q) default
      = (ofPart d (d.find? (p.splitOn '.') d.root)).get q default) ∧
    ∀ data name,
      (∃ x, Leads data (name.splitOn '.') x ∧ (ofValue data).get name default = x) ∨
      ((¬∃ x, Leads data (name.splitOn '.') x) ∧ (ofValue data).get name default = default) :=
  ⟨fun data => get_dotted_ofValue data p q default, fun d => get_dotted_document d p q default,
    fun data name => get_leads_or_default data name default⟩

/-- A dictionary with a dictionary in it. -/
def nested : Value :=
  .dictionary [(.int 7, .null), (.text "a", .dictionary [(.text "", .int 1), (.text "b", .int 2)])]

/-- Nothing after a point is a key like any other, and what is not there leaves the default. -/
theorem dotted_lookup_composes_of_nested :
    (ofValue nested).get "a.b" .null = .int 2 ∧ (ofValue nested).get "a." .null = .int 1 ∧
    (ofValue nested).get "a.c" (.bool true) = .bool true ∧
    ∃ x, Leads nested ["a", "b"] x ∧ x = .int 2 := by
  have hlaw := fun q default => (dotted_lookup_composes "a" q default).1 nested
  refine ⟨(hlaw "b" .null).trans rfl, (hlaw "" .null).trans rfl, (hlaw "c" (.bool true)).trans rfl,
    ?_⟩
  obtain ⟨x, hleads, hx⟩ | ⟨-, hdefault⟩ := (dotted_lookup_composes "a" "b" .null).2.2 nested "a.b"
  · exact ⟨x, hleads, hx.symm⟩
  · cases hdefault

end Config

end ShapeInference
