import ShapeInference.Json.Flaw
import ShapeInference.Text.Numeral
import ShapeInference.Value.Basic

/-!
# Numbers in JSON documents

- `Json.Number`: the parts of a number as it stands in a document;
- `Json.readNumber?`: the longest number at the beginning of a text;
- `Json.Number.value`: what it stands for: an integer if it has neither fraction nor exponent, and
  the nearest floating-point number otherwise.
-/

namespace ShapeInference

namespace Json

/-- The parts of a number: its sign, the digits before and after the point, and the sign and the
digits of its exponent. -/
structure Number where
  negative : Bool
  whole : Text
  fraction : Option Text
  exponent : Option (Bool × Text)
  deriving DecidableEq, Repr

/-- The digits at the beginning of a text, and the rest. -/
def readDigits (t : Text) : Text × Text :=
  t.span CodePoint.isDigit

/-- The digits before the point: a zero alone, or digits that begin with another one. -/
def readWhole? : Text → Option (Text × Text)
  | [] => none
  | c :: rest =>
    if c = '0' then some ([c], rest)
    else if c.isDigit then some (readDigits (c :: rest))
    else none

/-- A point with the digits after it, if there are any. -/
def readFraction : Text → Option Text × Text
  | [] => (none, [])
  | c :: rest =>
    match readDigits rest with
    | ([], _) => (none, c :: rest)
    | (digits, after) => if c = '.' then (some digits, after) else (none, c :: rest)

/-- A sign, which may be left out. -/
def readSign : Text → Bool × Text
  | [] => (false, [])
  | c :: rest =>
    if c = '-' then (true, rest)
    else if c = '+' then (false, rest)
    else (false, c :: rest)

/-- The letter of an exponent with its sign and digits, if there are any. -/
def readExponent : Text → Option (Bool × Text) × Text
  | [] => (none, [])
  | c :: rest =>
    let (negative, signless) := readSign rest
    match readDigits signless with
    | ([], _) => (none, c :: rest)
    | (digits, after) =>
      if c = 'e' || c = 'E' then (some (negative, digits), after) else (none, c :: rest)

/-- The longest number at the beginning of a text, and the rest. -/
def readNumber? (t : Text) : Option (Number × Text) :=
  let negative := t.head? = some ('-' : CodePoint)
  (readWhole? (if negative then t.tail else t)).map fun (whole, rest) =>
    let (fraction, rest) := readFraction rest
    let (exponent, rest) := readExponent rest
    (⟨negative, whole, fraction, exponent⟩, rest)

namespace Number

/-- Whether a number is written as an integer. -/
def isInteger (n : Number) : Bool :=
  n.fraction.isNone && n.exponent.isNone

/-- The integer that the digits before the point write. -/
def toInt (n : Number) : Int :=
  if n.negative then Int.negOfNat (Text.digitsValue n.whole) else Text.digitsValue n.whole

/-- The power of ten of the last digit. -/
def lastPower (n : Number) : Int :=
  (match n.exponent with
    | none => 0
    | some (negative, digits) =>
      if negative then Int.negOfNat (Text.digitsValue digits) else Text.digitsValue digits)
    - (n.fraction.getD []).length

/-- The floating-point number nearest to a number. -/
def toBinary64 (n : Number) : Binary64 :=
  Binary64.ofDecimal n.negative (Text.digitsValue (n.whole ++ n.fraction.getD [])) n.lastPower

/-- What a number stands for. -/
def value (n : Number) : Except Flaw Value :=
  if n.isInteger then
    if n.whole.length ≤ Numeral.maxDigits then .ok (.int n.toInt)
    else .error (.longInteger n.whole.length)
  else .ok (.float n.toBinary64)

end Number

end Json

end ShapeInference
