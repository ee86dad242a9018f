/-!
# Entries in order

A mapping is a list of entries in the order in which their keys first appeared. An entry for a key
that is there already keeps the place of the old one and replaces its value.

- `Entries.insert`: one more entry;
- `Entries.collapse`: a list of entries with every key once;
- `Entries.last?`: the value of the last entry for a key;
- `Entries.first?`: the value of the first entry for a key.

Keys are compared by a test that the caller gives, since keys of different forms may count as one.
-/

namespace ShapeInference

namespace Entries

variable {κ α : Type}

/-- The entries after one more. -/
def insert (same : κ → κ → Bool) (key : κ) (value : α) : List (κ × α) → List (κ × α)
  | [] => [(key, value)]
  | (k, v) :: rest =>
    if same k key then (k, value) :: rest else (k, v) :: insert same key value rest

/-- The entries with each key once, at the place of its first entry and with the value of its
last. -/
def collapse (same : κ → κ → Bool) (entries : List (κ × α)) : List (κ × α) :=
  entries.foldl (fun done entry => insert same entry.1 entry.2 done) []

/-- The value of the last entry for a key. -/
def last? (same : κ → κ → Bool) (key : κ) : List (κ × α) → Option α
  | [] => none
  | (k, v) :: rest =>
    match last? same key rest with
    | some w => some w
    | none => if same k key then some v else none

/-- The value of the first entry for a key. -/
def first? (same : κ → κ → Bool) (key : κ) : List (κ × α) → Option α
  | [] => none
  | (k, v) :: rest => if same k key then some v else first? same key rest

end Entries

end ShapeInference
