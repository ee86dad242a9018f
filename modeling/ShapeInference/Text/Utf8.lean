import ShapeInference.Text.Basic

/-!
# UTF-8

Bytes are decoded one at a time by a machine that remembers the sequence it is in. A sequence is
broken at the first byte that no well-formed sequence has there, so overlong forms, surrogates and
values beyond `0x10FFFF` are refused at their second byte.

- `Utf8.decode`: the text of bytes, or where and why they are malformed;
- `Utf8.decodeFilling`: the text of bytes with something in the place of those that are malformed;
- `Utf8.encode`: the bytes of a text;
- `Utf8.Malformed.message`: the wording of a failure.
-/

namespace ShapeInference

namespace Utf8

/-- What is wrong with a byte sequence. -/
inductive Reason where
  | startByte
  | continuationByte
  | endOfData
  deriving DecidableEq, Repr

/-- The bytes at fault: positions `start` up to but not including `stop`, the first of them, and
what is wrong. -/
structure Malformed where
  start : Nat
  stop : Nat
  first : UInt8
  reason : Reason
  deriving DecidableEq, Repr

/-- The wording of a reason. -/
def Reason.message : Reason → Text
  | .startByte => "invalid start byte"
  | .continuationByte => "invalid continuation byte"
  | .endOfData => "unexpected end of data"

/-- The wording for bytes that an encoding cannot have from one position up to another, the first of
them given: one byte is shown, several are given by their positions. -/
def undecodable (encoding : Text) (start stop : Nat) (first : UInt8) (reason : Text) : Text :=
  ("'" : Text) ++ encoding ++ ("' codec can't decode " : Text)
    ++ (if stop = start + 1 then
          ("byte 0x" : Text) ++ Text.hex 2 first.toNat ++ (" in position " : Text)
            ++ Text.ofNat start
        else
          ("bytes in position " : Text) ++ Text.ofNat start ++ ("-" : Text)
            ++ Text.ofNat (stop - 1))
    ++ (": " : Text) ++ reason

/-- The wording of a failure. -/
def Malformed.message (m : Malformed) : Text :=
  undecodable "utf-8" m.start m.stop m.first m.reason.message

/-- A sequence that has begun: its first byte, the bytes read, the value so far, the number of bytes
missing, and the range of the next one. -/
structure Pending where
  first : UInt8
  seen : Nat
  value : Nat
  missing : Nat
  low : UInt8
  high : UInt8
  deriving DecidableEq, Repr

/-- The sequence that a byte beyond ASCII begins. -/
def Pending.ofLead? (b : UInt8) : Option Pending :=
  if b < 0xC2 then none
  else if b < 0xE0 then some ⟨b, 1, b.toNat - 0xC0, 1, 0x80, 0xBF⟩
  else if b < 0xF0 then
    some ⟨b, 1, b.toNat - 0xE0, 2, if b = 0xE0 then 0xA0 else 0x80, if b = 0xED then 0x9F else 0xBF⟩
  else if b < 0xF5 then
    some ⟨b, 1, b.toNat - 0xF0, 3, if b = 0xF0 then 0x90 else 0x80, if b = 0xF4 then 0x8F else 0xBF⟩
  else none

/-- The sequence after one more continuation byte. -/
def Pending.extend (p : Pending) (b : UInt8) : Pending :=
  ⟨p.first, p.seen + 1, p.value * 0x40 + (b.toNat - 0x80), p.missing - 1, 0x80, 0xBF⟩

/-- The text of the bytes from a position on, inside a sequence or between two. At the end of the
bytes an open sequence is returned beside the text. -/
def decodeFrom (position : Nat) :
    Option Pending → List UInt8 → Except Malformed (Text × Option Pending)
  | pending, [] => .ok ([], pending)
  | none, b :: rest =>
    if b < 0x80 then do
      let (text, pending) ← decodeFrom (position + 1) none rest
      return (CodePoint.ofNat b.toNat :: text, pending)
    else
      match Pending.ofLead? b with
      | none => .error ⟨position, position + 1, b, .startByte⟩
      | some p => decodeFrom (position + 1) (some p) rest
  | some p, b :: rest =>
    if p.low ≤ b && b ≤ p.high then
      if p.missing = 1 then do
        let (text, pending) ← decodeFrom (position + 1) none rest
        return (CodePoint.ofNat (p.extend b).value :: text, pending)
      else decodeFrom (position + 1) (some (p.extend b)) rest
    -- the byte that does not belong to the sequence is not part of the fault
    else .error ⟨position - p.seen, position, p.first, .continuationByte⟩

/-- A sequence still open at the end of `length` bytes is cut short. -/
def closed (length : Nat) : Text × Option Pending → Except Malformed Text
  | (text, none) => .ok text
  | (_, some p) => .error ⟨length - p.seen, length, p.first, .endOfData⟩

/-- The text that bytes encode. -/
def decode (bytes : List UInt8) : Except Malformed Text := do
  closed bytes.length (← decodeFrom 0 none bytes)

/-- The text of bytes, where malformed ones are replaced; `fuel` bounds the number of places where
they are. -/
def fillWithin (filling : List UInt8 → Text) : Nat → List UInt8 → Text
  | 0, _ => []
  | fuel + 1, bytes =>
    match decode bytes with
    | .ok t => t
    | .error m =>
      (decode (bytes.take m.start)).toOption.getD []
        ++ filling ((bytes.take m.stop).drop m.start)
        ++ fillWithin filling fuel (bytes.drop m.stop)

/-- The text of bytes, where malformed ones are replaced. Every fault has a byte at least. -/
def decodeFilling (filling : List UInt8 → Text) (bytes : List UInt8) : Text :=
  fillWithin filling (bytes.length + 1) bytes

/-- The bytes of one code point; half a surrogate pair is written like any other code point. -/
def encodePoint (c : CodePoint) : List UInt8 :=
  let n := c.val
  if n < 0x80 then [n.toUInt8]
  else if n < 0x800 then [(0xC0 + n / 0x40).toUInt8, (0x80 + n % 0x40).toUInt8]
  else if n < 0x10000 then
    [(0xE0 + n / 0x1000).toUInt8, (0x80 + n / 0x40 % 0x40).toUInt8, (0x80 + n % 0x40).toUInt8]
  else
    [(0xF0 + n / 0x40000).toUInt8, (0x80 + n / 0x1000 % 0x40).toUInt8,
      (0x80 + n / 0x40 % 0x40).toUInt8, (0x80 + n % 0x40).toUInt8]

/-- The bytes of a text. -/
def encode (t : Text) : List UInt8 :=
  t.flatMap encodePoint

end Utf8

end ShapeInference
