import ShapeInference.Text.Order

/-!
# Similarity

Two texts are the more alike the more of their code points lie in common stretches: the longest one,
and in the same way what is before it in both and what is after it in both.

- `Text.commonStretch`: the longest stretch that two texts have in common;
- `Text.commonLength`: the number of code points in common stretches;
- `Text.closest`: the candidates that are most like a word.
-/

namespace ShapeInference

namespace Text

/-- The number of code points with which two texts begin alike. -/
def commonStart : Text → Text → Nat
  | a :: as, b :: bs => if a = b then commonStart as bs + 1 else 0
  | _, _ => 0

/-- A stretch of code points in each of two texts: where it begins in each, and its length. -/
structure Stretch where
  left : Nat
  right : Nat
  length : Nat
  deriving DecidableEq, Repr

/-- The longest stretch at the beginning of `a` that is also in another text; of several, the first
there. -/
def stretchAtStart (a : Text) : Text → Stretch
  | [] => ⟨0, 0, 0⟩
  | b :: bs =>
    let here := commonStart a (b :: bs)
    let later := stretchAtStart a bs
    if later.length ≤ here then ⟨0, 0, here⟩ else { later with right := later.right + 1 }

/-- The longest stretch that two texts have in common; of several, the first in the first text, and
then the first in the second. -/
def commonStretch : Text → Text → Stretch
  | [], _ => ⟨0, 0, 0⟩
  | a :: as, b =>
    let here := stretchAtStart (a :: as) b
    let later := commonStretch as b
    if later.length ≤ here.length then here else { later with left := later.left + 1 }

/-- The number of code points in the common stretches of two texts, of at most `fuel` stretches
inside one another. -/
def commonLengthWithin : Nat → Text → Text → Nat
  | 0, _, _ => 0
  | fuel + 1, a, b =>
    let s := commonStretch a b
    if s.length = 0 then 0
    else
      commonLengthWithin fuel (a.take s.left) (b.take s.right)
        + s.length
        + commonLengthWithin fuel (a.drop (s.left + s.length)) (b.drop (s.right + s.length))

/-- The number of code points in the common stretches of two texts. -/
def commonLength (a b : Text) : Nat :=
  commonLengthWithin a.length a b

/-- Whether at least three fifths of the code points of two texts lie in common stretches. -/
def isLike (a b : Text) : Bool :=
  3 * (a.length + b.length) ≤ 10 * commonLength a b

/-- Whether `a` is like a word at least as much as `b`; of two that are so equally, the one that
comes later in order counts as closer. -/
def isCloser (word a b : Text) : Bool :=
  let x := commonLength a word * (b.length + word.length)
  let y := commonLength b word * (a.length + word.length)
  y < x || (x = y && !a.precedes b)

/-- The `most` candidates that are most like a word, without those that are not like it, in order.
-/
def closest (most : Nat) (word : Text) (candidates : List Text) : List Text :=
  (((candidates.filter (isLike · word)).mergeSort (isCloser word)).take most).mergeSort
    fun a b => !b.precedes a

end Text

end ShapeInference
