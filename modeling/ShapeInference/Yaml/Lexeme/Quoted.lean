import ShapeInference.Yaml.Lexeme.Name

/-!
# Quoted scalars

Between single quotes only the quote itself is escaped, by writing it twice. Between double quotes a
backslash begins an escape. In both, a line end is folded into a space, and further line ends into
one line feed each.

- `Yaml.Lexeme.quoted`: a scalar between quotes.
-/

namespace ShapeInference

namespace Yaml.Lexeme

open Scan

/-- The code point that a letter after a backslash stands for. -/
def simpleEscape? (c : CodePoint) : Option CodePoint :=
  if c = '0' then some (.ofNat 0x00)
  else if c = 'a' then some (.ofNat 0x07)
  else if c = 'b' then some (.ofNat 0x08)
  else if c = 't' || c = '\t' then some (.ofNat 0x09)
  else if c = 'n' then some (.ofNat 0x0A)
  else if c = 'v' then some (.ofNat 0x0B)
  else if c = 'f' then some (.ofNat 0x0C)
  else if c = 'r' then some (.ofNat 0x0D)
  else if c = 'e' then some (.ofNat 0x1B)
  else if c = ' ' || c = '"' || c = '\\' || c = '/' then some c
  else if c = 'N' then some (.ofNat 0x85)
  else if c = '_' then some (.ofNat 0xA0)
  else if c = 'L' then some (.ofNat 0x2028)
  else if c = 'P' then some (.ofNat 0x2029)
  else none

/-- The number of hexadecimal digits after a letter that follows a backslash. -/
def escapeWidth? (c : CodePoint) : Option Nat :=
  if c = 'x' then some 2
  else if c = 'u' then some 4
  else if c = 'U' then some 8
  else none

/-- The context of problems inside double quotes. -/
def doubleContext : Text := "while scanning a double-quoted scalar"

/-- The context of problems inside quotes of either kind. -/
def quotedContext : Text := "while scanning a quoted scalar"

/-- The code point with a number that an escape gives. -/
def pointOfNumber (n : Nat) : Scan Text :=
  if n < 0x110000 then return [CodePoint.ofNat n]
  else throw (.scalar (if n < Nat.pow 2 31 then .codePoint else .wideCodePoint))

/-- The code point of an escape with a number of hexadecimal digits. -/
def numericEscape (start : Mark) (width : Nat) : Scan Text := do
  for k in List.range width do
    let c ← peekAt k
    if (c.bind CodePoint.hexValue?).isNone then
      fail doubleContext start
        (("expected escape sequence of " : Text) ++ Text.ofNat width
          ++ (" hexadecimal numbers, but found " : Text) ++ shownPoint c)
  let t ← pointOfNumber ((Text.hexValue? ((← get).text.take width)).getD 0)
  skip width
  return t

/-- Blanks and line ends after a line end inside quotes; what separates documents may not stand
there. -/
def foldedBreaks (start : Mark) : Nat → Scan Text
  | 0 => return []
  | fuel + 1 => do
    if ← seesSeparator then fail quotedContext start "found unexpected document separator"
    let _ ← takeWhile fun c => c = ' ' || c = '\t'
    let lineEnd ← lineBreak
    if lineEnd.isEmpty then return []
    else return lineEnd ++ (← foldedBreaks start fuel)

/-- An escape after its backslash. -/
def escape (start : Mark) : Scan Text := do
  let next ← peek
  match next.bind simpleEscape?, next.bind escapeWidth? with
  | some x, _ =>
    skip 1
    return [x]
  | none, some width =>
    skip 1
    numericEscape start width
  | none, none =>
    if next.elim false isBreak then
      let _ ← lineBreak
      foldedBreaks start (← bound)
    else
      fail doubleContext start (("found unknown escape character " : Text) ++ shownPoint next)

/-- Whether a code point may stand for itself inside quotes of either kind. -/
def isQuotedPoint (c : CodePoint) : Bool :=
  !(c = '\'' || c = '"' || c = '\\' || endsWord (some c))

/-- The part of a quoted scalar up to the next blank, line end or closing quote. -/
def quotedWord (double : Bool) (start : Mark) : Nat → Scan Text
  | 0 => return []
  | fuel + 1 => do
    let piece ← takeWhile isQuotedPoint
    let next ← peek
    let isTwice ← if !double && next = some ('\'' : CodePoint) then sees "''" else pure false
    if isTwice then
      skip 2
      return piece ++ ("'" : Text) ++ (← quotedWord double start fuel)
    else if next = some (if double then '\'' else '"' : CodePoint)
        || (!double && next = some ('\\' : CodePoint)) then
      skip 1
      return piece ++ next.toList ++ (← quotedWord double start fuel)
    else if double && next = some ('\\' : CodePoint) then
      skip 1
      let escaped ← escape start
      return piece ++ escaped ++ (← quotedWord double start fuel)
    else return piece

/-- A line end in a scalar with the line ends after it: a single line feed becomes a space. -/
def folded (lineEnd breaks : Text) : Text :=
  if lineEnd ≠ ("\n" : Text) then lineEnd ++ breaks
  else if breaks.isEmpty then " "
  else breaks

/-- The blanks and line ends between two parts of a quoted scalar. -/
def quotedSpace (start : Mark) : Scan Text := do
  let blanks ← takeWhile fun c => c = ' ' || c = '\t'
  match ← peek with
  | none => fail quotedContext start "found unexpected end of stream"
  | some c =>
    if isBreak c then
      let lineEnd ← lineBreak
      return folded lineEnd (← foldedBreaks start (← bound))
    else return blanks

/-- What follows the first part of a quoted scalar up to the closing quote. -/
def quotedRest (double : Bool) (start : Mark) : Nat → Scan Text
  | 0 => return []
  | fuel + 1 => do
    if (← peek) = some (if double then '"' else '\'' : CodePoint) then return []
    else
      let space ← quotedSpace start
      let word ← quotedWord double start (← bound)
      return space ++ word ++ (← quotedRest double start fuel)

/-- A scalar between quotes. -/
def quoted : Scan Token := do
  let start ← mark
  let double := (← peek) = some ('"' : CodePoint)
  skip 1
  let word ← quotedWord double start (← bound)
  let rest ← quotedRest double start (← bound)
  skip 1
  tokenFrom start (.scalar (word ++ rest) false)

end Yaml.Lexeme

end ShapeInference
