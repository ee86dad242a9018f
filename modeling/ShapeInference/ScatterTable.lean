/-!
# Scatter tables

A table has a power of two of places, and each member has a number of 64 bits. A member goes to the
place that the low bits of its number say, or to the first free one after it in a sequence of
places. A table that gets crowded is laid out anew with more places.

- `ScatterTable`: members with their numbers, by place;
- `ScatterTable.add`: a table with one more member;
- `ScatterTable.toList`: the members from the first place to the last;
- `ScatterTable.ofList`: a table with members that are added in order.
-/

namespace ShapeInference

/-- Members with their numbers, by place. -/
structure ScatterTable (α : Type) where
  cells : Array (Option (UInt64 × α))

namespace ScatterTable

variable {α : Type}

/-- A table without members. -/
def empty (size : Nat) : ScatterTable α :=
  ⟨Array.replicate size none⟩

/-- The members with their numbers, from the first place to the last. -/
def members (t : ScatterTable α) : List (UInt64 × α) :=
  t.cells.toList.filterMap id

/-- The members from the first place to the last. -/
def toList (t : ScatterTable α) : List α :=
  t.members.map (·.2)

/-- Whether a place is there and free. -/
def isFree (t : ScatterTable α) (place : Nat) : Bool :=
  match t.cells[place]? with
  | some none => true
  | _ => false

/-- The number of neighbours that are tried after a place, if they are all there. -/
def neighbours : Nat := 9

/-- The places that are tried from one on, before the next jump. -/
def stretch (t : ScatterTable α) (place : Nat) : List Nat :=
  if place + neighbours < t.cells.size then (List.range (neighbours + 1)).map (place + ·)
  else [place]

/-- The first free place from one on, after at most `fuel` jumps. The rest of the number decides how
far a jump goes, until nothing of it is left and the jumps lead everywhere. -/
def placeWithin (t : ScatterTable α) : Nat → Nat → Nat → Option Nat
  | 0, _, _ => none
  | fuel + 1, place, rest =>
    match (t.stretch place).find? t.isFree with
    | some free => some free
    | none =>
      let rest := rest / 32
      t.placeWithin fuel ((place * 5 + 1 + rest) % t.cells.size) rest

/-- The number of jumps after which nothing of a number is left. -/
def longestRest : Nat := 13

/-- A table with a member at the first free place for its number. -/
def put (t : ScatterTable α) (member : UInt64 × α) : ScatterTable α :=
  let number := member.1.toNat
  match t.placeWithin (longestRest + t.cells.size + 1) (number % t.cells.size) number with
  | some place => ⟨t.cells.setIfInBounds place (some member)⟩
  | none => t

/-- The smallest number of places above `least`; there are eight at least. -/
def sizeAbove (least : Nat) : Nat :=
  Nat.pow 2 (max 3 (least.log2 + 1))

/-- A table with the same members and more than `least` places. -/
def enlarge (t : ScatterTable α) (least : Nat) : ScatterTable α :=
  t.members.foldl put (empty (sizeAbove least))

/-- Whether a number of members is too much for a table: three fifths of the last place. -/
def isCrowded (t : ScatterTable α) (count : Nat) : Bool :=
  (t.cells.size - 1) * 3 ≤ count * 5

/-- The number of members from which on a table grows more slowly. -/
def manyMembers : Nat := 50000

/-- A table with one more member, the last of `count`. -/
def add (t : ScatterTable α) (count : Nat) (member : UInt64 × α) : ScatterTable α :=
  let t := t.put member
  if t.isCrowded count then t.enlarge (if manyMembers < count then count * 2 else count * 4) else t

/-- The members with their numbers, one after the other. -/
def addAll (t : ScatterTable α) (count : Nat) : List (UInt64 × α) → ScatterTable α
  | [] => t
  | member :: rest => addAll (t.add (count + 1) member) (count + 1) rest

/-- A table with members that are added in order. If their number is known before, there is room for
all of them from the beginning. -/
def ofList (isCounted : Bool) (members : List (UInt64 × α)) : ScatterTable α :=
  let t := empty (sizeAbove 0)
  let count := members.length
  addAll (if isCounted && t.isCrowded count then t.enlarge (count * 2) else t) 0 members

end ScatterTable

end ShapeInference
