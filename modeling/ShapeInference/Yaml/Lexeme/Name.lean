import ShapeInference.Text.Numeral
import ShapeInference.Yaml.Cursor
import ShapeInference.Yaml.Token

/-!
# Anchors, tags and directives

- `Yaml.Lexeme.anchor`: an anchor or an alias;
- `Yaml.Lexeme.tag`: a tag, with its handle if it has one;
- `Yaml.Lexeme.directive`: a line that begins with a percent sign.
-/

namespace ShapeInference

namespace Yaml.Lexeme

open Scan

/-- What names of anchors, handles and directives are made of. -/
def isNamePoint (c : CodePoint) : Bool :=
  c.isDigit || c.isLetter || c = '-' || c = '_'

/-- What may follow the name of an anchor. -/
def endsAnchor (c : Option CodePoint) : Bool :=
  endsWord c || c.elim false ("?:,]\x7d%@`" : Text).contains

/-- The problem with a name that is empty or goes on with something else. -/
def nameProblem (c : Option CodePoint) : Text :=
  ("expected alphabetic or numeric character, but found " : Text) ++ shownPoint c

/-- A token from a place to the one reached. -/
def tokenFrom (start : Mark) (kind : TokenKind) : Scan Token := do
  return ⟨kind, start, ← mark⟩

/-- An anchor or an alias, which begins with an ampersand or an asterisk. -/
def anchor : Scan Token := do
  let start ← mark
  let isAlias := (← peek) = some ('*' : CodePoint)
  let context : Text := if isAlias then "while scanning an alias" else "while scanning an anchor"
  skip 1
  let name ← takeWhile isNamePoint
  let next ← peek
  if name.isEmpty || !endsAnchor next then fail context start (nameProblem next)
  tokenFrom start (if isAlias then .reference name else .anchor name)

/-- What the address of a tag is made of, apart from escapes. -/
def isAddressPoint (c : CodePoint) : Bool :=
  c.isDigit || c.isLetter || ("-;/?:@&=+$,_.!~*'()[]" : Text).contains c

/-- Bytes that are escaped by a percent sign and two hexadecimal digits each. -/
def escapedBytes (context : Text) (start : Mark) : Nat → Scan (List UInt8)
  | 0 => return []
  | fuel + 1 => do
    if (← peek) = some ('%' : CodePoint) then
      skip 1
      for k in [0, 1] do
        let c ← peekAt k
        if (c.bind CodePoint.hexValue?).isNone then
          fail context start
            (("expected URI escape sequence of 2 hexadecimal numbers, but found " : Text)
              ++ shownPoint c)
      let digits ← take 2
      return ((Text.hexValue? digits).getD 0).toUInt8 :: (← escapedBytes context start fuel)
    else return []

/-- The text of escaped bytes. -/
def escapedText (context : Text) (start : Mark) : Scan Text := do
  let place ← mark
  match Utf8.decode (← escapedBytes context start (← bound)) with
  | .ok t => return t
  | .error e => throw (.tokens ⟨some context, some start, e.message, place⟩)

/-- The pieces of an address. -/
def addressPieces (context : Text) (start : Mark) : Nat → Scan Text
  | 0 => return []
  | fuel + 1 => do
    let piece ← takeWhile isAddressPoint
    if (← peek) = some ('%' : CodePoint) then
      let escaped ← escapedText context start
      return piece ++ escaped ++ (← addressPieces context start fuel)
    else return piece

/-- The address of a tag or directive, which may not be missing. -/
def address (what : Text) (start : Mark) : Scan Text := do
  let before := (← get).index
  let t ← addressPieces (("while scanning a " : Text) ++ what) start (← bound)
  if (← get).index = before then
    fail (("while parsing a " : Text) ++ what) start
      (("expected URI, but found " : Text) ++ shownPoint (← peek))
  return t

/-- The handle of a tag: one exclamation mark, or a name between two. -/
def handle (what : Text) (start : Mark) : Scan Text := do
  let context := ("while scanning a " : Text) ++ what
  let first ← peek
  if first ≠ some ('!' : CodePoint) then
    fail context start (("expected '!', but found " : Text) ++ shownPoint first)
  if (← peekAt 1) = some (' ' : CodePoint) then take 1
  else
    let length ← count 1 isNamePoint
    let last ← peekAt (length + 1)
    if last ≠ some ('!' : CodePoint) then
      skip (length + 1)
      fail context start (("expected '!', but found " : Text) ++ shownPoint last)
    take (length + 2)

/-- The handle and the ending of a tag with neither angle brackets nor a blank after the mark. -/
def shorthand (start : Mark) : Scan TokenKind := do
  let length ← count 1 fun c => !(c = '!' || endsField (some c))
  let handle ←
    if (← peekAt (length + 1)) = some ('!' : CodePoint) then handle "tag" start else take 1
  return .tag (some handle) (← address "tag" start)

/-- A tag: an address between angle brackets, a mark alone, or a handle with an ending. -/
def tag : Scan Token := do
  let start ← mark
  let next ← peekAt 1
  let kind ←
    if next = some ('<' : CodePoint) then do
      skip 2
      let whole ← address "tag" start
      let closing ← peek
      if closing ≠ some ('>' : CodePoint) then
        fail "while parsing a tag" start (("expected '>', but found " : Text) ++ shownPoint closing)
      skip 1
      pure (.tag none whole)
    else if endsWord next then do
      skip 1
      pure (.tag none "!")
    else shorthand start
  let after ← peek
  if !endsField after then
    fail "while scanning a tag" start (("expected ' ', but found " : Text) ++ shownPoint after)
  tokenFrom start kind

/-- The context of problems with directives. -/
def directiveContext : Text := "while scanning a directive"

/-- One of the two numbers of a version. -/
def versionNumber (start : Mark) : Scan Nat := do
  let digits ← takeWhile CodePoint.isDigit
  if digits.isEmpty then
    fail directiveContext start (("expected a digit, but found " : Text) ++ shownPoint (← peek))
  if Numeral.maxDigits < digits.length then throw (.scalar (.longNumeral digits.length))
  return Text.digitsValue digits

/-- The version that a directive declares. -/
def version (start : Mark) : Scan Directive := do
  skipSpaces
  let major ← versionNumber start
  let point ← peek
  if point ≠ some ('.' : CodePoint) then
    fail directiveContext start (("expected a digit or '.', but found " : Text) ++ shownPoint point)
  skip 1
  let minor ← versionNumber start
  let after ← peek
  if !endsField after then
    fail directiveContext start (("expected a digit or ' ', but found " : Text) ++ shownPoint after)
  return .version major minor

/-- The handle that a directive declares. -/
def handleDeclaration (start : Mark) : Scan Directive := do
  skipSpaces
  let handle ← handle "directive" start
  let between ← peek
  if between ≠ some (' ' : CodePoint) then
    fail directiveContext start (("expected ' ', but found " : Text) ++ shownPoint between)
  skipSpaces
  let beginning ← address "directive" start
  let after ← peek
  if !endsField after then
    fail directiveContext start (("expected ' ', but found " : Text) ++ shownPoint after)
  return .handle handle beginning

/-- The rest of a line, which may hold a comment only. -/
def restOfLine (context : Text) (start : Mark) : Scan Unit := do
  skipSpaces
  if (← peek) = some ('#' : CodePoint) then skipLine
  let after ← peek
  if !endsLine after then
    fail context start
      (("expected a comment or a line break, but found " : Text) ++ shownPoint after)
  let _ ← lineBreak

/-- A line that begins with a percent sign. -/
def directive : Scan Token := do
  let start ← mark
  skip 1
  let name ← takeWhile isNamePoint
  let next ← peek
  if name.isEmpty || !endsField next then fail directiveContext start (nameProblem next)
  let d ←
    if name = ("YAML" : Text) then version start
    else if name = ("TAG" : Text) then handleDeclaration start
    else pure .unknown
  let token ← tokenFrom start (.directive d)
  if d = .unknown then skipLine
  restOfLine directiveContext start
  return token

end Yaml.Lexeme

end ShapeInference
