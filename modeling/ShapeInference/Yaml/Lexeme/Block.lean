import ShapeInference.Yaml.Lexeme.Quoted

/-!
# Block scalars

A block scalar is a header and the indented lines after it. A literal one keeps its line ends, a
folded one turns single line ends between unindented lines into spaces.

- `Yaml.Lexeme.Header`: what a header says;
- `Yaml.Lexeme.block`: a block scalar.
-/

namespace ShapeInference

namespace Yaml.Lexeme

open Scan

/-- What becomes of the line ends at the end of a block scalar. -/
inductive Chomping where
  | strip
  | clip
  | keep
  deriving DecidableEq, Repr

/-- What the header of a block scalar says: the chomping and the indentation of its lines. -/
structure Header where
  chomping : Chomping
  increment : Option Nat
  deriving DecidableEq, Repr

/-- The context of problems in a block scalar. -/
def blockContext : Text := "while scanning a block scalar"

/-- The chomping that a sign stands for. -/
def chomping? : Scan (Option Chomping) := do
  match ← peek with
  | none => return none
  | some c =>
    if c = '+' then skip 1; return some .keep
    else if c = '-' then skip 1; return some .strip
    else return none

/-- The indentation that a digit stands for. -/
def increment? (start : Mark) : Scan (Option Nat) := do
  match ← peek with
  | none => return none
  | some c =>
    if c = '0' then
      fail blockContext start "expected indentation indicator in the range 1-9, but found 0"
    else if c.isDigit then skip 1; return some (c.val - 0x30)
    else return none

/-- The header of a block scalar: a sign and a digit in either order. -/
def header (start : Mark) : Scan Header := do
  let before ← chomping?
  let increment ← increment? start
  let after ← if before.isNone && increment.isSome then chomping? else pure none
  let next ← peek
  if !endsField next then
    fail blockContext start
      (("expected chomping or indentation indicators, but found " : Text) ++ shownPoint next)
  return ⟨(before <|> after).getD .clip, increment⟩

/-- The empty lines before a block scalar whose header gives no indentation: their line ends, the
widest indentation, and the place after the last one. -/
def leadingBreaks (widest : Nat) (stop : Mark) : Nat → Scan (Text × Nat × Mark)
  | 0 => return ([], widest, stop)
  | fuel + 1 => do
    let lineEnd ← lineBreak
    if !lineEnd.isEmpty then
      let (t, widest, stop) ← leadingBreaks widest (← mark) fuel
      return (lineEnd ++ t, widest, stop)
    else if (← peek) = some (' ' : CodePoint) then
      skip 1
      leadingBreaks (max widest (← get).column) stop fuel
    else return ([], widest, stop)

/-- Moves over a number of spaces at most. -/
def skipSpacesUpTo : Nat → Scan Unit
  | 0 => return ()
  | n + 1 => do
    if (← peek) = some (' ' : CodePoint) then
      skip 1
      skipSpacesUpTo n

/-- Moves over spaces as far as a column. -/
def skipIndent (indent : Nat) : Scan Unit := do
  skipSpacesUpTo (indent - (← get).column)

/-- The empty lines inside a block scalar: their line ends, and the place after the last one. -/
def innerBreaks (indent : Nat) (stop : Mark) : Nat → Scan (Text × Mark)
  | 0 => return ([], stop)
  | fuel + 1 => do
    skipIndent indent
    let lineEnd ← lineBreak
    if lineEnd.isEmpty then return ([], stop)
    else
      let (t, stop) ← innerBreaks indent (← mark) fuel
      return (lineEnd ++ t, stop)

/-- Whether another line of a block scalar begins at the place reached. -/
def onLine (indent : Nat) : Scan Bool := do
  return (← get).column = indent && (← peek).isSome

/-- Whether a space or a tab comes next. -/
def seesBlank : Scan Bool := do
  return (← peek).elim false fun c => c = ' ' || c = '\t'

/-- The lines of a block scalar after empty lines already read: the text without the line ends at
its end, those line ends, the first of them apart, and the place after them. -/
def blockLines (isFolded : Bool) (indent : Nat) (breaks : Text) (stop : Mark) :
    Nat → Scan (Text × Text × Text × Mark)
  | 0 => return ([], [], breaks, stop)
  | fuel + 1 => do
    if ← onLine indent then
      let indented ← seesBlank
      let line ← takeWhile (!isBreak ·)
      let lineEnd ← lineBreak
      let (next, stop) ← innerBreaks indent (← mark) (← bound)
      if ← onLine indent then
        let joint : Text :=
          if isFolded && lineEnd = ("\n" : Text) && !indented && !(← seesBlank) then
            if next.isEmpty then " " else []
          else lineEnd
        let (t, last, tail, stop) ← blockLines isFolded indent next stop fuel
        return (breaks ++ line ++ joint ++ t, last, tail, stop)
      else return (breaks ++ line, lineEnd, next, stop)
    else return ([], [], breaks, stop)

/-- A block scalar inside a block with an indentation. -/
def block (isFolded : Bool) (outer : Int) : Scan Token := do
  let start ← mark
  skip 1
  let header ← header start
  restOfLine blockContext start
  let least := (max 1 (outer + 1)).toNat
  let (breaks, indent, stop) ←
    match header.increment with
    | some n => do
      let (breaks, stop) ← innerBreaks (least + n - 1) (← mark) (← bound)
      pure (breaks, least + n - 1, stop)
    | none => do
      let (breaks, widest, stop) ← leadingBreaks 0 (← mark) (← bound)
      pure (breaks, max least widest, stop)
  let (t, last, tail, stop) ← blockLines isFolded indent breaks stop (← bound)
  let ending : Text :=
    match header.chomping with
    | .strip => []
    | .clip => last
    | .keep => last ++ tail
  return ⟨.scalar (t ++ ending) false, start, stop⟩

end Yaml.Lexeme

end ShapeInference
