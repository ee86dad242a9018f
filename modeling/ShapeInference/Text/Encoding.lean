import ShapeInference.Text.Utf8

/-!
# Encodings of documents

A document in bytes may be in any of the encodings of Unicode. Which one it is shows in a mark at
the beginning, or else in the zeros among the first four bytes. Surrogates that stand alone are let
through.

- `Encoding`: the encodings;
- `Encoding.detect`: the encoding of a document;
- `Encoding.decode`: the text of bytes in an encoding;
- `Encoding.decodeAny`: the text of a document in the encoding that it shows.
-/

namespace ShapeInference

/-- An encoding, with the order of the bytes in a unit of several. -/
inductive Encoding where
  | utf8
  | utf16 (bigEndian : Bool)
  | utf32 (bigEndian : Bool)
  deriving DecidableEq, Repr

namespace Encoding

/-- The name of an encoding. -/
def name : Encoding → Text
  | utf8 => "utf-8"
  | utf16 bigEndian => if bigEndian then "utf-16-be" else "utf-16-le"
  | utf32 bigEndian => if bigEndian then "utf-32-be" else "utf-32-le"

/-- Why bytes have no text in an encoding. -/
inductive Flaw where
  /-- They are no UTF-8. -/
  | malformed (m : Utf8.Malformed)
  /-- They end inside the unit at a position. -/
  | cutShort (e : Encoding) (start : Nat) (first : UInt8) (length : Nat)
  /-- The unit of four bytes at a position is the number of no code point. -/
  | outOfRange (e : Encoding) (start : Nat) (first : UInt8)
  deriving DecidableEq, Repr

/-- The wording of a flaw. -/
def Flaw.message : Flaw → Text
  | malformed m => m.message
  | cutShort e start first length =>
    Utf8.undecodable e.name start (start + length) first "truncated data"
  | outOfRange e start first =>
    Utf8.undecodable e.name start (start + 4) first "code point not in range(0x110000)"

/-- The encoding that the first bytes of a document show, and the length of the mark before its
text. -/
def detect : List UInt8 → Encoding × Nat
  | 0x00 :: 0x00 :: 0xFE :: 0xFF :: _ => (utf32 true, 4)
  | 0xFF :: 0xFE :: 0x00 :: 0x00 :: _ => (utf32 false, 4)
  | 0xFE :: 0xFF :: _ => (utf16 true, 2)
  | 0xFF :: 0xFE :: _ => (utf16 false, 2)
  | 0xEF :: 0xBB :: 0xBF :: _ => (utf8, 3)
  | a :: b :: c :: d :: _ =>
    if a = 0 then (if b = 0 then utf32 true else utf16 true, 0)
    else if b = 0 then (if c = 0 && d = 0 then utf32 false else utf16 false, 0)
    else (utf8, 0)
  | [a, b] => (if a = 0 then utf16 true else if b = 0 then utf16 false else utf8, 0)
  | _ => (utf8, 0)

/-- The number of a unit. -/
def unit (bigEndian : Bool) (bytes : List UInt8) : Nat :=
  (if bigEndian then bytes else bytes.reverse).foldl (fun n b => n * 0x100 + b.toNat) 0

/-- The code points of units of two bytes, where a pair of surrogates is one. -/
def joinPairs : List CodePoint → Text
  | high :: low :: rest =>
    if high.isHighSurrogate && low.isLowSurrogate then
      CodePoint.joinSurrogates high low :: joinPairs rest
    else high :: joinPairs (low :: rest)
  | rest => rest

/-- The units of two bytes from a position on. -/
def units16 (bigEndian : Bool) (position : Nat) : List UInt8 → Except Flaw (List CodePoint)
  | [] => .ok []
  | [a] => .error (.cutShort (utf16 bigEndian) position a 1)
  | a :: b :: rest =>
    (units16 bigEndian (position + 2) rest).map (CodePoint.ofNat (unit bigEndian [a, b]) :: ·)

/-- The units of four bytes from a position on. -/
def units32 (bigEndian : Bool) (position : Nat) : List UInt8 → Except Flaw Text
  | [] => .ok []
  | a :: b :: c :: d :: rest =>
    if unit bigEndian [a, b, c, d] < 0x110000 then
      (units32 bigEndian (position + 4) rest).map
        (CodePoint.ofNat (unit bigEndian [a, b, c, d]) :: ·)
    else .error (.outOfRange (utf32 bigEndian) position a)
  | a :: rest => .error (.cutShort (utf32 bigEndian) position a (rest.length + 1))

/-- The surrogate that bytes begin with, as UTF-8 would write it, and the bytes after it. -/
def surrogate? : List UInt8 → Option (CodePoint × List UInt8)
  | 0xED :: b :: c :: rest =>
    if 0xA0 ≤ b && b ≤ 0xBF && 0x80 ≤ c && c ≤ 0xBF then
      some (CodePoint.ofNat (0xD000 + (b.toNat - 0x80) * 0x40 + (c.toNat - 0x80)), rest)
    else none
  | _ => none

/-- The text of UTF-8 from a position on, with at most `fuel` surrogates. -/
def decodeUtf8 (position : Nat) : Nat → List UInt8 → Except Flaw Text
  | fuel, bytes =>
    match Utf8.decode bytes with
    | .ok t => .ok t
    | .error m =>
      match fuel, surrogate? (bytes.drop m.start), Utf8.decode (bytes.take m.start) with
      | fuel + 1, some (c, rest), .ok before =>
        (decodeUtf8 (position + m.start + 3) fuel rest).map (before ++ c :: ·)
      | _, _, _ =>
        .error (.malformed { m with start := position + m.start, stop := position + m.stop })

/-- The text of bytes in an encoding, after a mark of a length. The positions in a flaw count the
mark, except in UTF-8. -/
def decode (bytes : List UInt8) : Encoding × Nat → Except Flaw Text
  | (utf8, mark) => decodeUtf8 0 bytes.length (bytes.drop mark)
  | (utf16 bigEndian, mark) => (units16 bigEndian mark (bytes.drop mark)).map joinPairs
  | (utf32 bigEndian, mark) => units32 bigEndian mark (bytes.drop mark)

/-- The text of a document in bytes. -/
def decodeAny (bytes : List UInt8) : Except Flaw Text :=
  decode bytes (detect bytes)

end Encoding

end ShapeInference
