import ShapeInference.Yaml.Lexeme.Quoted

/-!
# Plain scalars

A scalar without quotes goes on until something that cannot belong to it: a colon or a number sign
where they have a meaning, an indicator inside brackets, or a line that is not indented enough.

- `Yaml.Lexeme.startsPlain`: whether a plain scalar may begin with a code point;
- `Yaml.Lexeme.plain`: a plain scalar, and whether it ended at the beginning of a line.
-/

namespace ShapeInference

namespace Yaml.Lexeme

open Scan

/-- Whether a code point has a meaning of its own at the beginning of a token. -/
def isIndicator (c : CodePoint) : Bool :=
  ("-?:,[]\x7b\x7d#&*!|>'\"%@`" : Text).contains c

/-- Whether a plain scalar may begin with the code point that comes next; `inFlow` says that
brackets are open. -/
def startsPlain (inFlow : Bool) (c : CodePoint) : Scan Bool := do
  if endsWord (some c) || isIndicator c then
    return !endsWord (← peekAt 1) && (c = '-' || (!inFlow && (c = '?' || c = ':')))
  else return true

/-- Whether a plain scalar ends before a code point with another one after it. -/
def endsPlain (inFlow : Bool) (c : CodePoint) (next : Option CodePoint) : Bool :=
  endsWord (some c)
    || (c = ':' && (endsWord next || (inFlow && next.elim false (",[]\x7b\x7d" : Text).contains)))
    || (inFlow && (",?[]\x7b\x7d" : Text).contains c)

/-- The number of code points that belong to a plain scalar. -/
def plainLength (inFlow : Bool) : Text → Nat
  | [] => 0
  | c :: rest => if endsPlain inFlow c rest.head? then 0 else plainLength inFlow rest + 1

/-- Whether the text at hand shows where a plain scalar ends. -/
def showsPlain (inFlow : Bool) (t : Text) : Bool :=
  match t.drop (plainLength inFlow t) with
  | [] => false
  | c :: rest => c ≠ ':' || !rest.isEmpty

/-- The line ends after a first one, and the spaces between them, up to a code point or to what
separates documents, which gives nothing. -/
def plainBreaks? : Nat → Scan (Option Text)
  | 0 => return some []
  | fuel + 1 => do
    skipSpaces
    let lineEnd ← lineBreak
    if lineEnd.isEmpty then return some []
    else if ← seesSeparator then return none
    else return (← plainBreaks? fuel).map (lineEnd ++ ·)

/-- The spaces and line ends after a part of a plain scalar, and whether there were line ends. What
separates documents gives nothing. -/
def plainSpace : Scan (Text × Bool) := do
  let blanks ← takeWhile (· = ' ')
  let lineEnd ← lineBreak
  if lineEnd.isEmpty then return (blanks, false)
  else if ← seesSeparator then return ([], true)
  else
    let breaks ← plainBreaks? (← bound)
    return (breaks.elim [] (folded lineEnd), true)

/-- The text of a plain scalar after a space already read, where it ends, and whether that is at the
beginning of a line. -/
def plainParts (inFlow : Bool) (indent : Int) (space : Text) (stop : Mark) (afterBreak : Bool) :
    Nat → Scan (Text × Mark × Bool)
  | 0 => return ([], stop, afterBreak)
  | fuel + 1 => do
    let isComment := (← peek) = some ('#' : CodePoint)
    let length ←
      if isComment then pure 0 else do pure (plainLength inFlow (← demand (showsPlain inFlow)))
    if length = 0 then return ([], stop, afterBreak)
    else
      let part ← take length
      let stop ← mark
      let (next, broke) ← plainSpace
      if next.isEmpty || (← peek) = some ('#' : CodePoint)
          || (!inFlow && ((← get).column : Int) < indent) then
        return (space ++ part, stop, broke)
      else
        let (t, stop, broke) ← plainParts inFlow indent next stop broke fuel
        return (space ++ part ++ t, stop, broke)

/-- A plain scalar, whose further lines have to be indented by `indent`, and whether the place
reached is at the beginning of a line. -/
def plain (inFlow : Bool) (indent : Int) : Scan (Token × Bool) := do
  let start ← mark
  let (t, stop, broke) ← plainParts inFlow indent [] start false (← bound)
  return (⟨.scalar t true, start, stop⟩, broke)

end Yaml.Lexeme

end ShapeInference
