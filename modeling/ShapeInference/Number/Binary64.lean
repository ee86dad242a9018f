/-!
# Binary floating-point numbers

A number is kept by its 64 bits: a sign, eleven bits of exponent, and 52 bits of fraction. All
arithmetic is exact arithmetic on fractions followed by one rounding to the nearest number, a tie
going to the even one.

- `Binary64`: the bits;
- `Binary64.magnitude`: significand and power of two of a finite number without its sign;
- `Binary64.ofRatio`: the number nearest to a fraction;
- `Binary64.toRational?`: the exact value as a fraction;
- `Binary64.add`, `Binary64.mul`: sum and product.
-/

namespace ShapeInference

/-- A binary floating-point number of 64 bits. -/
structure Binary64 where
  bits : UInt64
  deriving DecidableEq, Repr

namespace Binary64

/-- The sign bit. -/
def isNegative (x : Binary64) : Bool :=
  Nat.pow 2 63 ≤ x.bits.toNat

/-- The eleven bits of the exponent. -/
def exponentField (x : Binary64) : Nat :=
  x.bits.toNat / Nat.pow 2 52 % Nat.pow 2 11

/-- The 52 bits of the fraction. -/
def fractionField (x : Binary64) : Nat :=
  x.bits.toNat % Nat.pow 2 52

/-- Not a number. -/
def isNaN (x : Binary64) : Bool :=
  x.exponentField = 0x7FF && x.fractionField ≠ 0

/-- Infinity of either sign. -/
def isInfinite (x : Binary64) : Bool :=
  x.exponentField = 0x7FF && x.fractionField = 0

/-- Zero of either sign. -/
def isZero (x : Binary64) : Bool :=
  x.exponentField = 0 && x.fractionField = 0

/-- Significand `m` and exponent `e` of a finite number, whose magnitude is `m * 2 ^ e`. -/
def magnitude (x : Binary64) : Nat × Int :=
  if x.exponentField = 0 then (x.fractionField, -1074)
  else (Nat.pow 2 52 + x.fractionField, (x.exponentField : Int) - 1075)

/-- The number with a sign and the lower 63 bits. -/
def ofFields (negative : Bool) (lower : Nat) : Binary64 :=
  ⟨(if negative then Nat.pow 2 63 + lower else lower).toUInt64⟩

/-- Infinity. -/
def infinity (negative : Bool) : Binary64 :=
  ofFields negative (0x7FF * Nat.pow 2 52)

/-- The value that is not a number. -/
def nan : Binary64 :=
  ofFields false (0x7FF * Nat.pow 2 52 + Nat.pow 2 51)

/-- The quotient rounded to the nearest integer, a tie going to the even one. -/
def roundDiv (num den : Nat) : Nat :=
  let q := num / den
  let twice := 2 * (num % den)
  if twice < den then q
  else if den < twice then q + 1
  else q + q % 2

/-- A numerator and a denominator after division by a power of two. -/
def scale (num den : Nat) (e : Int) : Nat × Nat :=
  if 0 ≤ e then (num, den * Nat.pow 2 e.toNat) else (num * Nat.pow 2 (-e).toNat, den)

/-- The greatest `e` with `2 ^ (e + 52) ≤ num / den`, or the least exponent there is. -/
def exponentOf (num den : Nat) : Int :=
  -- the logarithm of the quotient is the difference of the logarithms or one less
  let guess : Int := (num.log2 : Int) - den.log2 - 52
  let (n, d) := scale num den guess
  max (-1074) (if n < d * Nat.pow 2 52 then guess - 1 else guess)

/-- The number nearest to `num / den`; beyond the largest finite number it is infinite. -/
def ofRatio (negative : Bool) (num den : Nat) : Binary64 :=
  if num = 0 then ofFields negative 0
  else
    let e := exponentOf num den
    let (n, d) := scale num den e
    -- a significand that rounds up to a power of two carries into the exponent
    let lower := (e + 1074).toNat * Nat.pow 2 52 + roundDiv n d
    if 0x7FF * Nat.pow 2 52 ≤ lower then infinity negative else ofFields negative lower

/-- The number nearest to `significand * 10 ^ exponent`. Exponents that leave no doubt about the
result are cut off, so that no huge power is computed. -/
def ofDecimal (negative : Bool) (significand : Nat) (exponent : Int) : Binary64 :=
  if significand = 0 then ofFields negative 0
  else if 400 < exponent then infinity negative
  else if exponent + (significand.log2 : Int) < -1200 then ofFields negative 0
  else if 0 ≤ exponent then ofRatio negative (significand * Nat.pow 10 exponent.toNat) 1
  else ofRatio negative significand (Nat.pow 10 (-exponent).toNat)

/-- The exact value of a finite number: sign, numerator and denominator. -/
def toRational? (x : Binary64) : Option (Int × Nat) :=
  if x.exponentField = 0x7FF then none
  else
    let (m, e) := x.magnitude
    let num : Int := m * Nat.pow 2 e.toNat
    some (if x.isNegative then -num else num, Nat.pow 2 (-e).toNat)

/-- The integer that a number is equal to, if any. -/
def toInt? (x : Binary64) : Option Int :=
  match x.toRational? with
  | some (num, den) => if num % (den : Int) = 0 then some (num / (den : Int)) else none
  | none => none

/-- The number nearest to an integer fraction; a zero is positive. -/
def ofFraction (num : Int) (den : Nat) : Binary64 :=
  ofRatio (num < 0) num.natAbs den

/-- The sum of two numbers. Infinities of both signs have none. -/
def add (x y : Binary64) : Binary64 :=
  match x.toRational?, y.toRational? with
  | some (a, b), some (c, d) => ofFraction (a * d + c * b) (b * d)
  | none, some _ => x
  | some _, none => y
  | none, none => if x = y then x else nan

/-- The product of two numbers. Zero and infinity have none. -/
def mul (x y : Binary64) : Binary64 :=
  let negative := x.isNegative != y.isNegative
  match x.toRational?, y.toRational? with
  | some (a, b), some (c, d) => ofRatio negative (a.natAbs * c.natAbs) (b * d)
  | _, _ =>
    if x.isNaN || y.isNaN || x.isZero || y.isZero then nan
    else infinity negative

/-- The number with the other sign. -/
def neg (x : Binary64) : Binary64 :=
  ofFields (!x.isNegative) (x.bits.toNat % Nat.pow 2 63)

/-- Equality as numbers: both zeros are equal, and what is not a number equals nothing. -/
def numEq (x y : Binary64) : Bool :=
  !x.isNaN && !y.isNaN && (x = y || (x.isZero && y.isZero))

end Binary64

end ShapeInference
