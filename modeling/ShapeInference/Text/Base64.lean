import ShapeInference.Text.Basic

/-!
# Base 64

Four code points out of sixty-four stand for three bytes. Code points outside the alphabet are
passed over; equals signs fill up the last group.

- `Base64.decode`: the bytes of a text, or why there are none.
-/

namespace ShapeInference

namespace Base64

/-- The value of a code point of the alphabet. -/
def digitValue? (c : CodePoint) : Option Nat :=
  if 0x41 ≤ c.val && c.val ≤ 0x5A then some (c.val - 0x41)
  else if 0x61 ≤ c.val && c.val ≤ 0x7A then some (c.val - 0x61 + 26)
  else if c.isDigit then some (c.val - 0x30 + 52)
  else if c = '+' then some 62
  else if c = '/' then some 63
  else none

/-- Why a text has no bytes. -/
inductive Flaw where
  /-- One group has a single code point after this many whole groups. -/
  | lone (groups : Nat)
  | padding
  deriving DecidableEq, Repr

/-- The wording of a flaw. -/
def Flaw.message : Flaw → Text
  | lone groups =>
    ("Invalid base64-encoded string: number of data characters (" : Text)
      ++ Text.ofNat (groups * 4 + 1) ++ (") cannot be 1 more than a multiple of 4" : Text)
  | padding => "Incorrect padding"

/-- The bytes of the rest of a text: `place` code points of a group were read, the bits of the last
one that are left over are `bits`, and `pads` equals signs and `groups` whole groups came before. -/
def decodeFrom (place bits pads groups : Nat) : Text → Except Flaw (List UInt8)
  | [] =>
    if place = 0 then .ok []
    else if place = 1 then .error (.lone groups)
    else .error .padding
  | c :: rest =>
    if c = '=' then
      if 2 ≤ place then
        if 4 ≤ place + pads + 1 then .ok [] else decodeFrom place bits (pads + 1) groups rest
      else decodeFrom place bits pads groups rest
    else
      match digitValue? c with
      | none => decodeFrom place bits pads groups rest
      | some v =>
        if place = 0 then decodeFrom 1 v 0 groups rest
        else if place = 1 then
          (decodeFrom 2 (v % 16) 0 groups rest).map ((bits * 4 + v / 16).toUInt8 :: ·)
        else if place = 2 then
          (decodeFrom 3 (v % 4) 0 groups rest).map ((bits * 16 + v / 4).toUInt8 :: ·)
        else (decodeFrom 0 0 0 (groups + 1) rest).map ((bits * 64 + v).toUInt8 :: ·)

/-- The bytes of a text. -/
def decode (t : Text) : Except Flaw (List UInt8) :=
  decodeFrom 0 0 0 0 t

end Base64

end ShapeInference
