import ShapeInference.Number.Binary64
import ShapeInference.Text.Numeral

/-!
# Reading floating-point numbers

A decimal fraction has digits before or after a point, or both, and may have a sign and an exponent.
Infinity and what is not a number are read by name.

- `Binary64.read?`: the number nearest to what a text writes.
-/

namespace ShapeInference

namespace Binary64

/-- Whether a sign is a hyphen, and what follows it; a sign may be left out. -/
def readSign : Text → Bool × Text
  | [] => (false, [])
  | c :: rest =>
    if c = '-' then (true, rest)
    else if c = '+' then (false, rest)
    else (false, c :: rest)

/-- The power of ten that an exponent writes; without one it is zero. -/
def readExponent? : Text → Option Int
  | [] => some 0
  | c :: rest =>
    let (negative, digits) := readSign rest
    if (c = 'e' || c = 'E') && !digits.isEmpty && digits.all CodePoint.isDigit then
      some (if negative then Int.negOfNat (Text.digitsValue digits) else Text.digitsValue digits)
    else none

/-- The digits after a point, if there is a point, and the rest. -/
def readPlaces : Text → Text × Text
  | [] => ([], [])
  | c :: rest => if c = '.' then rest.span CodePoint.isDigit else ([], c :: rest)

/-- The number nearest to a decimal fraction without a sign. -/
def readMagnitude? (negative : Bool) (t : Text) : Option Binary64 :=
  let (whole, rest) := t.span CodePoint.isDigit
  let (places, rest) := readPlaces rest
  if whole.isEmpty && places.isEmpty then none
  else
    (readExponent? rest).map fun power =>
      ofDecimal negative (Text.digitsValue (whole ++ places)) (power - places.length)

/-- The names of infinity. -/
def infinityNames : List Text := ["inf", "infinity"]

/-- The number nearest to what a text writes, with blanks around it. -/
def read? (t : Text) : Option Binary64 :=
  let (negative, rest) := readSign (Numeral.trim (Numeral.toAscii t))
  let name := rest.map CodePoint.toLower
  if infinityNames.contains name then some (infinity negative)
  else if name = ("nan" : Text) then some nan
  else readMagnitude? negative rest

end Binary64

end ShapeInference
