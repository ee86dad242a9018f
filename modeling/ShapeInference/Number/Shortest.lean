import ShapeInference.Number.Binary64

/-!
# Shortest decimals

The decimal of a binary number is the shortest that reads back as that number, and among those the
nearest to it.

- `Shortest.Interval`: the fractions that round to a number;
- `Shortest.digits`: digits and the place of the decimal point, where `(d, e)` stands for
  `d * 10 ^ e`.
-/

namespace ShapeInference

namespace Shortest

/-- The fractions between `low / den` and `high / den` around `value / den`, with the ends when
`closed`. -/
structure Interval where
  value : Nat
  low : Nat
  high : Nat
  den : Nat
  closed : Bool
  deriving Repr

/-- The fractions that round to `m * 2 ^ e`: half way to the next number on either side. Below a
power of two the next number is only half as far. The ends belong to even significands. -/
def interval (m : Nat) (e : Int) : Interval :=
  let up := Nat.pow 2 e.toNat
  let below := if m = Nat.pow 2 52 && -1074 < e then 1 else 2
  { value := 4 * m * up
    low := (4 * m - below) * up
    high := (4 * m + 2) * up
    den := 4 * Nat.pow 2 (-e).toNat
    closed := m % 2 = 0 }

/-- Whether `d * 10 ^ k` lies in an interval. -/
def Interval.contains (i : Interval) (d : Nat) (k : Int) : Bool :=
  let p := d * Nat.pow 10 k.toNat * i.den
  let s := Nat.pow 10 (-k).toNat
  if i.closed then i.low * s ≤ p && p ≤ i.high * s else i.low * s < p && p < i.high * s

/-- The number of decimal digits of a positive number, with `fuel` bounding it. -/
def digitCount : Nat → Nat → Nat
  | 0, _ => 0
  | fuel + 1, n => if n < 10 then 1 else digitCount fuel (n / 10) + 1

/-- The greatest `k` with `10 ^ k ≤ num / den`. -/
def decimalExponent (num den : Nat) : Int :=
  if den ≤ num then (digitCount (num.log2 + 1) (num / den) : Int) - 1
  else
    let ceiling := (den + num - 1) / num
    Int.negOfNat (digitCount (den.log2 + 1) (ceiling - 1))

/-- The point of the grid of multiples of `10 ^ k` that lies in an interval and is nearest to its
value, an even point at equal distance. -/
def Interval.nearest? (i : Interval) (k : Int) : Option Nat :=
  let s := Nat.pow 10 (-k).toNat
  let unit := Nat.pow 10 k.toNat * i.den
  let d := i.value * s / unit
  match i.contains d k, i.contains (d + 1) k with
  | true, false => some d
  | false, true => some (d + 1)
  | false, false => none
  | true, true =>
    -- both neighbours are inside: the nearer one, or the even one of two at equal distance
    let twice := 2 * (i.value * s % unit)
    if twice < unit then some d
    else if unit < twice then some (d + 1)
    else some (d + d % 2)

/-- The first grid with a point in the interval, from the coarsest on, `fuel` times finer at most.
-/
def Interval.search (i : Interval) : Nat → Int → Nat × Int
  | 0, k => (i.value / i.den, k)
  | fuel + 1, k =>
    match i.nearest? k with
    | some d => (d, k)
    | none => i.search fuel (k - 1)

/-- The shortest decimal of the positive number `m * 2 ^ e`: seventeen digits always suffice. -/
def digits (m : Nat) (e : Int) : Nat × Int :=
  let i := interval m e
  i.search 17 (decimalExponent i.value i.den)

end Shortest

end ShapeInference
