import ShapeInference.Yaml.Source

/-!
# Reading positions

- `Yaml.Cursor`: what is left of a document, and the place where that begins;
- `Yaml.Scan`: a step of reading, which moves the cursor or fails;
- `Yaml.isBreak`, `Yaml.endsWord`, `Yaml.endsLine`: what separates lines and words. The end of the
  document separates both.

A step that looks ahead takes in the pieces of the document as far as it looks, and fails if
something is wrong in one of them.
-/

namespace ShapeInference

namespace Yaml

/-- Whether a code point ends a line. -/
def isBreak (c : CodePoint) : Bool :=
  c = '\n' || c = '\r' || c.val = 0x85 || c.val = 0x2028 || c.val = 0x2029

/-- Whether a code point ends a line, or there is none. -/
def endsLine (c : Option CodePoint) : Bool :=
  c.elim true isBreak

/-- Whether a code point is a space or ends a line, or there is none. -/
def endsField (c : Option CodePoint) : Bool :=
  c.elim true fun c => c = ' ' || isBreak c

/-- Whether a code point is a space or tab or ends a line, or there is none. -/
def endsWord (c : Option CodePoint) : Bool :=
  c.elim true fun c => c = ' ' || c = '\t' || isBreak c

/-- What a message says about a code point; where there is none, it is taken for a zero. -/
def shownPoint (c : Option CodePoint) : Text :=
  Text.quoted [c.getD (.ofNat 0)]

/-- The rest of a document and the place where it begins: the text at hand, the pieces to come, the
number of code points in both, the number of those before, and the line and column from zero. -/
structure Cursor where
  text : Text
  coming : Source
  left : Nat
  index : Nat
  line : Nat
  column : Nat

namespace Cursor

/-- The beginning of a document. -/
def ofSource (source : Source) : Cursor :=
  ⟨[], source, source.length, 0, 0, 0⟩

/-- The place of a cursor. -/
def mark (c : Cursor) : Mark :=
  ⟨c.line, c.column⟩

/-- The cursor after one code point. A line feed ends the line, also after a carriage return; a byte
order mark takes no column. -/
def forward (c : Cursor) : Cursor :=
  match c.text with
  | [] => c
  | x :: text =>
    if isBreak x && !(x = '\r' && text.head? = some ('\n' : CodePoint)) then
      ⟨text, c.coming, c.left - 1, c.index + 1, c.line + 1, 0⟩
    else if x.val = 0xFEFF then ⟨text, c.coming, c.left - 1, c.index + 1, c.line, c.column⟩
    else ⟨text, c.coming, c.left - 1, c.index + 1, c.line, c.column + 1⟩

/-- The cursor after a number of code points. -/
def forwardBy : Nat → Cursor → Cursor
  | 0, c => c
  | n + 1, c => forwardBy n c.forward

end Cursor

/-- A step of reading. -/
abbrev Scan := StateT Cursor (Except Failure)

namespace Scan

/-- Takes in pieces until what is at hand is enough, and gives it. -/
def demand (enough : Text → Bool) : Scan Text := do
  let c ← get
  let (text, coming) ← Source.takeUntil enough c.text c.coming
  set { c with text, coming }
  return text

/-- Whether a text has more than `n` code points. -/
def hasMore (n : Nat) (t : Text) : Bool :=
  !(t.drop n).isEmpty

/-- The code point after `n` others, if any. -/
def peekAt (n : Nat) : Scan (Option CodePoint) := do
  return (← demand (hasMore n))[n]?

/-- The next code point, if any. -/
def peek : Scan (Option CodePoint) :=
  peekAt 0

/-- Whether a text comes next. -/
def sees (t : Text) : Scan Bool := do
  return (Text.dropStart? t (← demand (hasMore (t.length - 1)))).isSome

/-- The number of code points of a class that come next after `n` others. -/
def count (n : Nat) (p : CodePoint → Bool) : Scan Nat := do
  let t ← demand fun t => (t.drop n).any (!p ·)
  return ((t.drop n).takeWhile p).length

/-- The place reached. -/
def mark : Scan Mark := do
  return (← get).mark

/-- Moves over a number of code points, and looks at the one after them. -/
def skip (n : Nat) : Scan Unit := do
  let _ ← demand (hasMore n)
  modify (Cursor.forwardBy n)

/-- Moves over a number of code points and gives them. -/
def take (n : Nat) : Scan Text := do
  let t ← demand (hasMore n)
  skip n
  return t.take n

/-- Moves over all code points of a class that come next and gives them. -/
def takeWhile (p : CodePoint → Bool) : Scan Text := do
  take (← count 0 p)

/-- Moves over all spaces that come next. -/
def skipSpaces : Scan Unit := do
  let _ ← takeWhile (· = ' ')

/-- Moves over the rest of the line. -/
def skipLine : Scan Unit := do
  let _ ← takeWhile (!isBreak ·)

/-- The number of steps that no loop over what is left can exceed. -/
def bound : Scan Nat := do
  return (← get).left + 2

/-- Fails at the place reached, with what was being read from another place on. -/
def fail {α : Type} (context : Text) (start : Mark) (problem : Text) : Scan α := do
  throw (.tokens ⟨some context, some start, problem, ← mark⟩)

/-- Moves over one line end, if one comes next, and gives it as it counts in a scalar: all but the
Unicode separators count as line feeds. -/
def lineBreak : Scan Text := do
  match ← peek with
  | none => return []
  | some c =>
    if c.val = 0x2028 || c.val = 0x2029 then
      skip 1
      return [c]
    else if isBreak c then
      skip (if ← sees "\r\n" then 2 else 1)
      return "\n"
    else return []

/-- Whether a line of three hyphens or points comes next, which separates documents. -/
def seesSeparator : Scan Bool := do
  if (← sees "---") || (← sees "...") then return endsWord (← peekAt 3)
  else return false

end Scan

end Yaml

end ShapeInference
