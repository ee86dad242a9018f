import ShapeInference.Number.Binary64
import ShapeInference.Text.Utf8

/-!
# Texts that arrive in pieces

A file is read a number of code points at a time. Behind that, its bytes are decoded a chunk at a
time, and line ends are folded. A sequence of bytes or a line end may run over from one chunk to the
next.

- `Feed`: what is left of a file that is being read;
- `Feed.chunkSize`: the size of the next chunk, which depends on how dense the one before it was;
- `Feed.advance`: the decoding of the next chunk;
- `Feed.read`: the next piece;
- `Feed.pieces`: all pieces of a file, up to the first that has no text.
-/

namespace ShapeInference

/-- What is left of a file that is being read: the bytes not decoded yet, those at the end of the
last chunk that were left open, whether that chunk ended in a carriage return to which a line feed
may still belong, the text that was decoded but not read yet, and the number of bytes for a code
point in the last chunk. -/
structure Feed where
  bytes : List UInt8
  openBytes : List UInt8
  holdsReturn : Bool
  ready : Text
  density : Binary64

namespace Feed

/-- A file that nothing was read of. -/
def ofBytes (bytes : List UInt8) : Feed :=
  ⟨bytes, [], false, [], .ofFields false 0⟩

/-- The number of bytes that a chunk has at least, unless there are no more. -/
def leastChunk : Nat := 8192

/-- The number of bytes of the next chunk when a number of code points are missing. -/
def chunkSize (f : Feed) (missing : Nat) : Nat :=
  let expected := f.density.mul (.ofRatio false missing 1)
  max leastChunk (expected.toRational?.elim 0 fun (num, den) => num.toNat / den)

/-- Whether bytes that are malformed in one place end there, with the first two bytes of a
surrogate. -/
def endsInSurrogate (bytes : List UInt8) (m : Utf8.Malformed) : Bool :=
  m.first = 0xED && m.start + 2 = bytes.length
    && bytes.getLast?.any fun b => 0xA0 ≤ b && b ≤ 0xBF

/-- The text of bytes that more may follow, and the bytes at their end that are left open. A
surrogate at the end is refused only when more is known. -/
def decodeOpen (bytes : List UInt8) : Except Utf8.Malformed (Text × List UInt8) :=
  match Utf8.decodeFrom 0 none bytes with
  | .ok (t, pending) => .ok (t, bytes.drop (bytes.length - pending.elim 0 (·.seen)))
  | .error m =>
    if endsInSurrogate bytes m then
      (Utf8.decode (bytes.take m.start)).map fun t => (t, bytes.drop m.start)
    else .error m

/-- The text of a chunk after the bytes left open before it, and the bytes that it leaves open; an
empty chunk is the last one. -/
def decode (f : Feed) (chunk : List UInt8) : Except Utf8.Malformed (Text × List UInt8) :=
  if chunk.isEmpty then (Utf8.decode f.openBytes).map fun t => (t, [])
  else decodeOpen (f.openBytes ++ chunk)

/-- The file after one more chunk, and whether that was still something. A carriage return at the
end of a chunk is held back until more is known. -/
def advance (f : Feed) (missing : Nat) : Except Utf8.Malformed (Bool × Feed) := do
  let chunk := f.bytes.take (f.chunkSize missing)
  let (t, openBytes) ← f.decode chunk
  let isReleased := f.holdsReturn && (chunk.isEmpty || !t.isEmpty)
  let t : Text := if isReleased then '\r' :: t else t
  let isCut := !chunk.isEmpty && t.getLast? = some ('\r' : CodePoint)
  let t := Text.foldLineEnds (if isCut then t.dropLast else t)
  let next : Feed :=
    { bytes := f.bytes.drop chunk.length
      openBytes
      holdsReturn := isCut || (f.holdsReturn && !isReleased)
      ready := t
      density := .ofRatio false (if t.isEmpty then 0 else chunk.length) t.length }
  return (!chunk.isEmpty || !t.isEmpty, next)

/-- The next piece of a file, of at most `missing` code points and from at most `fuel` chunks. -/
def readWithin : Nat → Nat → Feed → Except Utf8.Malformed (Text × Feed)
  | 0, _, f => return ([], f)
  | fuel + 1, missing, f => do
    let t := f.ready.take missing
    let left : Feed := { f with ready := f.ready.drop missing }
    if t.length = missing then return (t, left)
    else
      let (goesOn, next) ← left.advance (missing - t.length)
      if goesOn then
        let (more, next) ← readWithin fuel (missing - t.length) next
        return (t ++ more, next)
      else return (t, next)

/-- The next piece of a file, of at most `size` code points. Every chunk but the last ones has a
byte. -/
def read (size : Nat) (f : Feed) : Except Utf8.Malformed (Text × Feed) :=
  f.readWithin (f.bytes.length + 3) size

/-- The pieces of a file, `fuel` at most. -/
def piecesWithin (size : Nat) : Nat → Feed → List (Except Utf8.Malformed Text)
  | 0, _ => []
  | fuel + 1, f =>
    match f.read size with
    | .error m => [.error m]
    | .ok (t, next) => if t.isEmpty then [] else .ok t :: piecesWithin size fuel next

/-- The pieces of the bytes of a file, each of at most `size` code points. -/
def pieces (size : Nat) (bytes : List UInt8) : List (Except Utf8.Malformed Text) :=
  piecesWithin size (bytes.length + 2) (ofBytes bytes)

end Feed

end ShapeInference
