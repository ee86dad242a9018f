import ShapeInference.Text.Basic
import ShapeInference.Number.Shortest

/-!
# How floating-point numbers are written

- `Layout`: the decisions of a number format;
- `Layout.write`: a binary number in a format;
- `Layout.value`: numbers as values are shown: positional from `0.0001` up to sixteen digits before
  the point, and always with a point or an exponent;
- `Layout.part`: the same without `.0` after a whole number, as the parts of a complex number are
  shown.
-/

namespace ShapeInference

/-- The decisions of a number format: the exponents of the first digit that are written without an
exponent, what follows a whole number, and how many digits an exponent has at least. -/
structure Layout where
  least : Int
  greatest : Int
  wholeEnd : Text
  exponentDigits : Nat

namespace Layout

/-- Numbers as values are shown. -/
def value : Layout :=
  { least := -4, greatest := 15, wholeEnd := ".0", exponentDigits := 2 }

/-- Numbers as the parts of a complex number are shown. -/
def part : Layout :=
  { value with wholeEnd := "" }

/-- A point before the digits after it, if there are any. -/
def fraction (digits : Text) : Text :=
  if digits.isEmpty then [] else '.' :: digits

/-- Digits and the exponent of the first of them in a format. -/
def place (l : Layout) (digits : Text) (exponent : Int) : Text :=
  if l.least ≤ exponent && exponent ≤ l.greatest then
    if exponent < 0 then
      ("0." : Text) ++ List.replicate (-exponent - 1).toNat ('0' : CodePoint) ++ digits
    else
      let whole := exponent.toNat + 1
      if digits.length ≤ whole then
        digits ++ List.replicate (whole - digits.length) ('0' : CodePoint) ++ l.wholeEnd
      else digits.take whole ++ fraction (digits.drop whole)
  else
    let power := Text.ofNat exponent.natAbs
    digits.take 1 ++ fraction (digits.drop 1) ++ (if exponent < 0 then ("e-" : Text) else "e+")
      ++ List.replicate (l.exponentDigits - power.length) ('0' : CodePoint) ++ power

/-- The digits of a number without the zeros at its end. -/
def significant (n : Nat) : Text :=
  ((Text.ofNat n).reverse.dropWhile (· = ('0' : CodePoint))).reverse

/-- A number without its sign. -/
def writeMagnitude (l : Layout) (x : Binary64) : Text :=
  if x.isNaN then "nan"
  else if x.isInfinite then "inf"
  else if x.isZero then ("0" : Text) ++ l.wholeEnd
  else
    let (d, k) := Shortest.digits x.magnitude.1 x.magnitude.2
    l.place (significant d) (k + ((Text.ofNat d).length : Int) - 1)

/-- A number in a format; what is not a number has no sign. -/
def write (l : Layout) (x : Binary64) : Text :=
  if x.isNegative && !x.isNaN then '-' :: l.writeMagnitude x else l.writeMagnitude x

/-- A number in a format with its sign always written. -/
def writeSigned (l : Layout) (x : Binary64) : Text :=
  if x.isNegative && !x.isNaN then '-' :: l.writeMagnitude x else '+' :: l.writeMagnitude x

end Layout

end ShapeInference
