import ShapeInference.Number.Binary64
import ShapeInference.Text.Numeral

/-!
# Quantities

What a number amounts to does not depend on the class that it belongs to. It is a fraction or one of
two infinities.

- `Quantity`: fractions and infinities;
- `Quantity.isSame`: whether two of them are equal;
- `Quantity.ofBinary?`: the quantity of a floating-point number;
- `Quantity.ofSpelling?`: the quantity that a fraction or decimal spells.
-/

namespace ShapeInference

/-- What a number amounts to. -/
inductive Quantity where
  | finite (num : Int) (den : Nat)
  | infinite (negative : Bool)
  deriving DecidableEq, Repr

namespace Quantity

/-- The quantity of an integer. -/
def ofInt (n : Int) : Quantity := finite n 1

/-- The quantity of a floating-point number, unless it is not a number. -/
def ofBinary? (x : Binary64) : Option Quantity :=
  if x.isInfinite then some (infinite x.isNegative)
  else x.toRational?.map fun (num, den) => finite num den

/-- The quantity that a text spells as a fraction, or as a decimal with or without a point. -/
def ofSpelling? (t : Text) : Option Quantity :=
  match t.splitOn '/', t.splitOn '.' with
  | [num, den], _ => do return finite (← Numeral.read? num) (← Numeral.read? den).toNat
  | _, [whole, places] =>
    (Numeral.read? (whole ++ places)).map fun n => finite n (Nat.pow 10 places.length)
  | _, _ => (Numeral.read? t).map ofInt

/-- Whether two quantities are equal. -/
def isSame : Quantity → Quantity → Bool
  | finite a b, finite c d => a * d = c * b
  | infinite s, infinite t => s = t
  | _, _ => false

end Quantity

end ShapeInference
