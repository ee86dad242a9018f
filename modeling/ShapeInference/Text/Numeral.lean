import ShapeInference.Text.Blank
import ShapeInference.Text.DecimalDigit

/-!
# Integer numerals

Integers are written in decimal with at most `Numeral.maxDigits` digits, and read back from digits
of any script.

- `Numeral.write?`: the decimal numeral of an integer that is not too long;
- `Numeral.read?`: the integer that a numeral stands for, with blanks around it, a sign before it
  and single underscores between its digits.
-/

namespace ShapeInference

namespace Numeral

/-- The most digits that a numeral may have. -/
def maxDigits : Nat := 4300

/-- Whether a natural number has more digits than a numeral may have. -/
def isTooLong (n : Nat) : Bool :=
  Nat.pow 10 maxDigits ≤ n

/-- The decimal numeral of an integer, unless it is too long. -/
def write? (n : Int) : Option Text :=
  if isTooLong n.natAbs then none else some (Text.ofInt n)

/-- A digit or a blank beyond ASCII by its ASCII form; everything else stays. -/
def toAscii (t : Text) : Text :=
  t.map fun c =>
    if c.val < 0x80 then c
    else if c.isBlank then ' '
    else c.digitValue?.elim c CodePoint.ofDigit

/-- The text without blanks at either end. -/
def trim (t : Text) : Text :=
  ((t.dropWhile CodePoint.isAsciiBlank).reverse.dropWhile CodePoint.isAsciiBlank).reverse

/-- The value of ASCII digits with single underscores between them, where `afterDigit` says that a
digit came just before; and the number of digits. -/
def readDigits? : Bool → Nat → Nat → Text → Option (Nat × Nat)
  | afterDigit, value, count, [] => if afterDigit then some (value, count) else none
  | afterDigit, value, count, c :: rest =>
    if c.isDigit then readDigits? true (value * 10 + (c.val - 0x30)) (count + 1) rest
    else if c = '_' && afterDigit then readDigits? false value count rest
    else none

/-- The natural number of digits, if they are digits and not too many. -/
def readNat? (t : Text) : Option Nat :=
  match readDigits? false 0 0 t with
  | some (value, count) => if count ≤ maxDigits then some value else none
  | none => none

/-- The integer that a numeral stands for. -/
def read? (t : Text) : Option Int :=
  match trim (toAscii t) with
  | [] => none
  | sign :: rest =>
    if sign = '-' then (readNat? rest).map (-Int.ofNat ·)
    else if sign = '+' then (readNat? rest).map Int.ofNat
    else (readNat? (sign :: rest)).map Int.ofNat

end Numeral

end ShapeInference
