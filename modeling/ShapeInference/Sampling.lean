import ShapeInference.Text.Basic

/-!
# Sampling (`SamplingStrategy`, `_indices`, `sample`)

Of a long array only some elements need to be looked at. A strategy says at which positions.

- `Strategy`: the four strategies, with their names;
- `Strategy.picks`: whether a strategy looks at a position of an array of a length;
- `Strategy.positions`: all positions that a strategy looks at;
- `Strategy.sample`: the elements that a strategy looks at, in order.

Elements are told apart by position, so equal elements are kept apart, and positions that coincide
in a short array count once.
-/

namespace ShapeInference

/-- Which elements of an array are looked at (`SamplingStrategy`). -/
inductive Strategy where
  | first
  | firstLast
  | firstMidLast
  | all
  deriving DecidableEq, Repr

namespace Strategy

/-- All strategies, from the fewest elements to the most. -/
def every : List Strategy :=
  [first, firstLast, firstMidLast, all]

/-- The name of a strategy. -/
def name : Strategy → Text
  | first => "first"
  | firstLast => "first+last"
  | firstMidLast => "first+mid+last"
  | all => "all"

/-- The identifier of a strategy among the constants of the program. -/
def constant : Strategy → Text
  | first => "FIRST"
  | firstLast => "FIRST_LAST"
  | firstMidLast => "FIRST_MID_LAST"
  | all => "ALL"

/-- The strategy with a name. -/
def ofName? (t : Text) : Option Strategy :=
  every.find? (·.name = t)

/-- Whether a strategy looks at position `i` of an array of `length` elements. -/
def picks (s : Strategy) (length i : Nat) : Bool :=
  match s with
  | first => i = 0
  | firstLast => i = 0 || i + 1 = length
  | firstMidLast => i = 0 || i = length / 2 || i + 1 = length
  | all => true

/-- The positions that a strategy looks at in an array of `length` elements, in order
(`_indices`). -/
def positions (s : Strategy) (length : Nat) : List Nat :=
  if length = 0 then []
  else
    match s with
    | first => [0]
    | firstLast => [0, length - 1].eraseDups
    | firstMidLast => [0, length / 2, length - 1].eraseDups
    | all => List.range length

/-- The elements at the positions from `i` on that a strategy looks at. -/
def sampleFrom {α : Type} (s : Strategy) (length : Nat) : Nat → List α → List α
  | _, [] => []
  | i, x :: rest =>
    if s.picks length i then x :: sampleFrom s length (i + 1) rest
    else sampleFrom s length (i + 1) rest

/-- The elements of an array that a strategy looks at (`sample`, where nothing fails). -/
def sample {α : Type} (s : Strategy) (items : List α) : List α :=
  s.sampleFrom items.length 0 items

end Strategy

end ShapeInference
