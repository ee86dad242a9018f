import ShapeInference.ScatterTable
import ShapeInference.Value.Basic

/-!
# Sets

The items of a set are listed as a scatter table of them is. The number of an item is made so that
items that are one as keys have the same: what a number amounts to modulo a prime, and a mixture of
the numbers of its items for a tuple or a set.

- `Scatter`: the numbers of quantities, complex numbers, tuples and sets;
- `Value.scatter?`: the number of an item;
- `Value.setOf`: a set of items.
-/

namespace ShapeInference

namespace Scatter

/-- The prime by which numbers are divided. -/
def prime : Nat := Nat.pow 2 61 - 1

/-- A power modulo the prime; `fuel` bounds the number of bits of the exponent. -/
def powerWithin : Nat → Nat → Nat → Nat
  | 0, _, _ => 1
  | fuel + 1, base, exponent =>
    let half := powerWithin fuel (base * base % prime) (exponent / 2)
    if exponent % 2 = 1 then half * base % prime else half

/-- The inverse of a number modulo the prime: the power that makes one with a further factor. -/
def inverse (n : Nat) : Nat :=
  powerWithin 61 (n % prime) (prime - 2)

/-- An integer as a number of 64 bits. Minus one is not used. -/
def ofInt (n : Int) : UInt64 :=
  ((if n = -1 then -2 else n) % (Nat.pow 2 64 : Int)).toNat.toUInt64

/-- An integer with the sign of another. -/
def signed (negative : Bool) (n : Nat) : Int :=
  if negative then -(n : Int) else n

/-- The number of infinity. -/
def infinity : Nat := 314159

/-- The number of a quantity: its remainder modulo the prime. -/
def ofQuantity : Quantity → UInt64
  | .finite num den => ofInt (signed (num < 0) (num.natAbs * inverse den % prime))
  | .infinite negative => ofInt (signed negative infinity)

/-- The number of an integer that is an item. -/
def ofWhole (n : Int) : UInt64 := ofQuantity (.ofInt n)

/-- A number, where the greatest one is replaced. -/
def unreserved (replacement n : UInt64) : UInt64 :=
  if n + 1 = 0 then replacement else n

/-- The number of a complex number with those of its parts. -/
def ofParts (re im : UInt64) : UInt64 :=
  unreserved (ofInt (-2)) (re + 1000003 * im)

/-- A number after its lower bits changed places with its upper ones. -/
def turn (n : UInt64) : UInt64 :=
  (n <<< 31) ||| (n >>> 33)

/-- The number of a tuple with those of its items. -/
def ofTuple (items : List UInt64) : UInt64 :=
  let start : UInt64 := 2870177450012600261
  let mixed : UInt64 := items.foldl
    (fun n item => turn (n + item * 14029467366897019727) * 11400714785074694791) start
  unreserved 1546275796 (mixed + (items.length.toUInt64 ^^^ (start ^^^ 3527539)))

/-- The number of an item with its bits far apart. -/
def scatter (n : UInt64) : UInt64 :=
  let bits : UInt64 := n ^^^ (n <<< 16)
  (bits ^^^ 89869747) * 3644798167

/-- A number where the upper bits count for the lower ones. -/
def fold (n : UInt64) : UInt64 :=
  n ^^^ ((n >>> 11) ^^^ (n >>> 25))

/-- The number of a set with those of its items, whatever their order. -/
def ofSet (items : List UInt64) : UInt64 :=
  let mixed : UInt64 := items.foldl (fun n item => n ^^^ scatter item) (0 : UInt64)
  let counted : UInt64 := mixed ^^^ ((items.length.toUInt64 + 1) * 1927868237)
  unreserved 590923713 (fold counted * 69069 + 907133923)

end Scatter

namespace Value

mutual

/-- The number of an item that is a number, or a tuple or set of such items, or a range that
is as long as to have a step. -/
def scatter? : Value → Option UInt64
  | tuple items => (scatters? items).map Scatter.ofTuple
  | object _ _ _ (some (tuple items)) => (scatters? items).map Scatter.ofTuple
  | set _ items => (scatters? items).map Scatter.ofSet
  | range start stop step =>
    let length := rangeLength start stop step
    if 1 < length then some (Scatter.ofTuple ([(length : Int), start, step].map Scatter.ofWhole))
    else none
  | v =>
    match v.quantity?, v with
    | some q, _ => some (Scatter.ofQuantity q)
    | none, complex re im => do
      return Scatter.ofParts (Scatter.ofQuantity (← Quantity.ofBinary? re))
        (Scatter.ofQuantity (← Quantity.ofBinary? im))
    | none, _ => none

/-- The numbers of items. -/
def scatters? : List Value → Option (List UInt64)
  | [] => some []
  | v :: vs => do return (← scatter? v) :: (← scatters? vs)

end

/-- Different items in the order in which a set lists them: that of a table if they all have
numbers, otherwise that in which they were added. -/
def listed (isCounted : Bool) (items : List Value) : List Value :=
  match scatters? items with
  | some numbers => (ScatterTable.ofList isCounted (numbers.zip items)).toList
  | none => items

/-- A set of items, where those that are one as keys are one; `isCounted` says whether their number
was known before. -/
def setOf (frozen isCounted : Bool) (items : List Value) : Value :=
  set frozen
    (listed isCounted ((Entries.collapse sameKey (items.map fun v => (v, ()))).map (·.1)))

end Value

end ShapeInference
