import ShapeInference.Number.Reading
import ShapeInference.Text.Base64
import ShapeInference.Text.Lowercase
import ShapeInference.Yaml.Atom
import ShapeInference.Yaml.Failure

/-!
# Values of scalars

- `Yaml.Scalar.int`, `Yaml.Scalar.float`, `Yaml.Scalar.bool`, `Yaml.Scalar.timestamp`: the values of
  scalars that are tagged so;
- `Yaml.Scalar.binary`: bytes in base 64.

A scalar has the form that belongs to its tag if it got the tag by that form; one that was tagged
otherwise may be at fault.
-/

namespace ShapeInference

namespace Yaml.Scalar

/-- The value of digits in a base, of which there has to be one. -/
def digits? (base : Nat) (t : Text) : Option Nat :=
  if t.isEmpty then none
  else
    t.foldlM (fun n c => c.hexValue?.bind fun d => if d < base then some (n * base + d) else none) 0

/-- The letter after a zero that names a base. -/
def baseLetter? (base : Nat) : Option CodePoint :=
  if base = 2 then some 'b' else if base = 8 then some 'o' else if base = 16 then some 'x' else none

/-- Digits without a zero and a letter that name their base. -/
def dropBase (base : Nat) : Text → Text
  | zero :: letter :: rest =>
    if zero = '0' && baseLetter? base = some letter.toLower then rest else zero :: letter :: rest
  | t => t

/-- The integer that a numeral in a base writes, with blanks around it and a sign. In base ten the
digits at its beginning are counted first. -/
def numeral (base : Nat) (t : Text) : Except Fault Int :=
  let (negative, unsigned) := Binary64.readSign (Numeral.trim (Numeral.toAscii t))
  let digits := dropBase base unsigned
  let count := (digits.takeWhile CodePoint.isDigit).length
  if base = 10 && Numeral.maxDigits < count then .error (.longNumeral count)
  else
    match digits? base digits with
    | none => .error (.numeral base t)
    | some n => .ok (if negative then Int.negOfNat n else n)

/-- The first sign of a text and what follows it. A text has to have a first code point. -/
def signed (t : Text) : Except Fault (Bool × Text) :=
  if t.isEmpty then .error .emptyText else .ok (Binary64.readSign t)

/-- The value of an integer without its sign. -/
def magnitude (t : Text) : Except Fault Int :=
  match t with
  | [] => .error .emptyText
  | c :: rest =>
    if c = '0' then
      match rest with
      | [] => .ok 0
      | letter :: digits =>
        if letter = 'b' then numeral 2 digits
        else if letter = 'x' then numeral 16 digits
        else numeral 8 t
    else if t.contains (':' : CodePoint) then do
      let parts ← (t.splitOn ':').mapM (numeral 10)
      return parts.foldl (fun n d => n * 60 + d) 0
    else numeral 10 t

/-- The value of an integer. -/
def int (t : Text) : Except Fault Int := do
  let (negative, unsigned) ← signed (t.filter (· ≠ ('_' : CodePoint)))
  let n ← magnitude unsigned
  return if negative then -n else n

/-- The value of a decimal fraction. -/
def fraction (t : Text) : Except Fault Binary64 :=
  match Binary64.read? t with
  | some x => .ok x
  | none => .error (.fraction t)

/-- The sum of parts of base sixty, the last one first, where `unit` is what the first one counts
for. -/
def sixtieths (total : Binary64) (unit : Nat) : List Binary64 → Except Fault Binary64
  | [] => .ok total
  | x :: rest =>
    let factor := Binary64.ofRatio false unit 1
    if factor.isInfinite then .error .wideNumber
    else sixtieths (total.add (x.mul factor)) (unit * 60) rest

/-- The value of a floating-point number. -/
def float (t : Text) : Except Fault Atom := do
  let (negative, unsigned) ← signed (Text.lowercase (t.filter (· ≠ ('_' : CodePoint))))
  if unsigned = (".nan" : Text) then return .notNumber
  else
    let x ←
      if unsigned = (".inf" : Text) then .ok (Binary64.infinity false)
      else if unsigned.contains (':' : CodePoint) then do
        let parts ← (unsigned.splitOn ':').mapM fraction
        sixtieths (Binary64.ofFields false 0) 1 parts.reverse
      else fraction unsigned
    return .float (if negative then x.neg else x)

/-- The words for truth values. -/
def truthWords : List (Text × Bool) :=
  [("yes", true), ("no", false), ("true", true), ("false", false), ("on", true), ("off", false)]

/-- The truth value that a word stands for. -/
def bool (t : Text) : Except Fault Bool :=
  match truthWords.find? (·.1 = t.lowercase) with
  | some (_, b) => .ok b
  | none => .error (.truthValue t.lowercase)

/-- The date or time that a text writes. -/
def timestamp (t : Text) : Except Fault Timestamp :=
  match Timestamp.read? t with
  | none => .error .dateForm
  | some s =>
    match s.problem? with
    | some reason => .error (.date reason)
    | none => .ok s

/-- What a message says about the first code points of a text that are not ASCII. -/
def notAscii (t : Text) : Text :=
  let start := (t.takeWhile (·.val < 0x80)).length
  let wrong := (t.drop start).takeWhile (0x80 ≤ ·.val)
  ("'ascii' codec can't encode character" : Text)
    ++ (match wrong with
        | [c] => (" '" : Text) ++ Text.numericEscape c ++ ("' in position " : Text)
            ++ Text.ofNat start
        | _ => ("s in position " : Text) ++ Text.ofNat start ++ ("-" : Text)
            ++ Text.ofNat (start + wrong.length - 1))
    ++ (": ordinal not in range(128)" : Text)

/-- The bytes of a text in base 64, or what is wrong with it. -/
def binary (t : Text) : Except Text (List UInt8) :=
  if t.isAscii then
    match Base64.decode t with
    | .ok bytes => .ok bytes
    | .error flaw => .error (("failed to decode base64 data: " : Text) ++ flaw.message)
  else .error (("failed to convert base64 data into ascii: " : Text) ++ notAscii t)

end Yaml.Scalar

end ShapeInference
