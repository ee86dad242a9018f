import ShapeInference.Text.Feed
import ShapeInference.Yaml.Failure

/-!
# Sources

The text of a document is taken in piece by piece, and only as far as it is looked at. So what is
wrong in a piece counts only once the pieces before it have been understood.

- `Yaml.isAllowed`: the code points that a document may hold;
- `Yaml.Source`: the pieces of a document, each as a text or with what is wrong in it;
- `Yaml.Source.ofBytes`: the pieces of the bytes of a file.
-/

namespace ShapeInference

namespace Yaml

/-- Whether a document may hold a code point. -/
def isAllowed (c : CodePoint) : Bool :=
  c = '\t' || c = '\n' || c = '\r' || (0x20 ≤ c.val && c.val ≤ 0x7E) || c.val = 0x85
    || (0xA0 ≤ c.val && c.val ≤ 0xD7FF) || (0xE000 ≤ c.val && c.val ≤ 0xFFFD) || 0x10000 ≤ c.val

/-- The pieces of a document. Nothing follows a piece in which something is wrong. -/
abbrev Source := List (Except Failure Text)

namespace Source

/-- The number of code points of a piece. -/
def pieceSize : Nat := 4096

/-- The pieces of a file with the first two joined, since those are taken in at once. -/
def joined : List (Except Utf8.Malformed Text) → List (Except Utf8.Malformed Text)
  | .ok first :: .ok second :: rest => .ok (first ++ second) :: rest
  | .ok _ :: .error m :: _ => [.error m]
  | pieces => pieces

/-- The pieces of a file after a number of code points, each checked for what no document may hold.
-/
def checked (position : Nat) : List (Except Utf8.Malformed Text) → Source
  | [] => []
  | .error m :: _ => [.error (.undecodable m)]
  | .ok t :: rest =>
    match t.find? (!isAllowed ·) with
    | some c => [.error (.character c (position + (t.takeWhile isAllowed).length))]
    | none => .ok t :: checked (position + t.length) rest

/-- The pieces of the bytes of a file. -/
def ofBytes (bytes : List UInt8) : Source :=
  checked 0 (joined (Feed.pieces pieceSize bytes))

/-- The number of code points in the pieces that are texts. -/
def length (source : Source) : Nat :=
  source.foldl (fun n piece => n + (piece.toOption.map List.length).getD 0) 0

/-- What is at hand and what is still to come, after pieces were taken in until there was enough or
nothing more to come. -/
def takeUntil (enough : Text → Bool) (text : Text) : Source → Except Failure (Text × Source)
  | [] => .ok (text, [])
  | piece :: rest =>
    if enough text then .ok (text, piece :: rest)
    else
      match piece with
      | .error f => .error f
      | .ok t => takeUntil enough (text ++ t) rest

end Source

end Yaml

end ShapeInference
