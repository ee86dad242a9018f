import ShapeInference.Text.Utf8

/-!
# Paths as texts

A path is a sequence of bytes, and a text names one if it can be encoded. A byte that belongs to no
encoded code point is named by a surrogate of its own, so a path may have several names.

- `PathFlaw`: why a text names no path;
- `PathFlaw.of?`: the flaw of a text, if it has one;
- `Naming.bytes`: the bytes of a path;
- `Naming.canonical`: the name of a path in which only bytes of no code point are surrogates;
- `Naming.shown`: a path in a message.
-/

namespace ShapeInference

/-- Why a text names no path. -/
inductive PathFlaw where
  /-- It holds the null character, which ends a path. -/
  | null
  /-- It holds surrogates from position `start` up to but not including `stop`, and the first one
  names no byte. -/
  | surrogates (start stop : Nat) (first : CodePoint)
  deriving DecidableEq, Repr

namespace Naming

/-- Whether a code point names a byte beyond ASCII. -/
def namesByte (c : CodePoint) : Bool :=
  0xDC80 ≤ c.val && c.val ≤ 0xDCFF

/-- The first surrogates of a text that name no byte; the text begins at a position. -/
def unencodable? (position : Nat) : Text → Option PathFlaw
  | [] => none
  | c :: rest =>
    if c.isSurrogate && !namesByte c then
      some (.surrogates position (position + 1 + (rest.takeWhile CodePoint.isSurrogate).length) c)
    else unencodable? (position + 1) rest

/-- The bytes of a path. -/
def bytes (path : Text) : List UInt8 :=
  path.flatMap fun c => if namesByte c then [(c.val - 0xDC00).toUInt8] else Utf8.encodePoint c

/-- The number of bytes of a path. -/
def size (path : Text) : Nat :=
  (bytes path).length

/-- The surrogate that names a byte. -/
def ofByte (b : UInt8) : CodePoint :=
  CodePoint.ofNat (0xDC00 + b.toNat)

/-- The name of the same path in which only bytes of no code point are surrogates. -/
def canonical (path : Text) : Text :=
  Utf8.decodeFilling (·.map ofByte) (bytes path)

/-- The largest number of bytes of a path. -/
def maxPath : Nat := 4095

/-- The largest number of bytes of a name between two slashes. -/
def maxPart : Nat := 255

/-- A path in a message, where bytes of no code point are replaced. -/
def shown (path : Text) : Text :=
  Utf8.decodeFilling (fun _ => [CodePoint.ofNat 0xFFFD]) (bytes path)

end Naming

namespace PathFlaw

/-- The flaw of a text that names no path. -/
def of? (path : Text) : Option PathFlaw :=
  match Naming.unencodable? 0 path with
  | some flaw => some flaw
  | none => if path.contains (CodePoint.ofNat 0) then some null else none

/-- The wording of a flaw. -/
def message : PathFlaw → Text
  | null => "embedded null byte"
  | surrogates start stop first =>
    ("'utf-8' codec can't encode character" : Text)
      ++ (if stop = start + 1 then
            (" '\\u" : Text) ++ Text.hex 4 first.val ++ ("' in position " : Text)
              ++ Text.ofNat start
          else
            ("s in position " : Text) ++ Text.ofNat start ++ ("-" : Text)
              ++ Text.ofNat (stop - 1))
      ++ (": surrogates not allowed" : Text)

end PathFlaw

end ShapeInference
