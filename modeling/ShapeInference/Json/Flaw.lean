import ShapeInference.Failure

/-!
# Flaws of JSON documents

A reader works on the rest of a document. When it meets a flaw it keeps the rest from there on, and
the place of the flaw is what lies before that rest.

- `Json.Reason`: what can be wrong with the form of a document;
- `Json.Flaw`: what makes a document unreadable;
- `Json.placeOf`: the line and column where a rest begins.
-/

namespace ShapeInference

namespace Json

/-- What is wrong with the form of a document. -/
inductive Reason where
  | byteOrderMark
  | value
  | name
  | colon
  | comma
  | extraData
  | openLiteral
  | controlCharacter
  | escape
  | unicodeEscape
  deriving DecidableEq, Repr

/-- The wording of a reason. -/
def Reason.message : Reason → Text
  | byteOrderMark => "Unexpected UTF-8 BOM (decode using utf-8-sig)"
  | value => "Expecting value"
  | name => "Expecting property name enclosed in double quotes"
  | colon => "Expecting ':' delimiter"
  | comma => "Expecting ',' delimiter"
  | extraData => "Extra data"
  | openLiteral => "Unterminated string starting at"
  | controlCharacter => "Invalid control character at"
  | escape => "Invalid \\escape"
  | unicodeEscape => "Invalid \\uXXXX escape"

/-- What makes a document unreadable. -/
inductive Flaw where
  /-- The form is broken where this rest of the document begins. -/
  | malformed (reason : Reason) (rest : Text)
  /-- A name of a number that is not finite stands where a value should. -/
  | constant (name : Text)
  /-- An integer has this many digits, which is too many. -/
  | longInteger (digits : Nat)
  deriving DecidableEq, Repr

/-- The line and column just after a text; only line feeds end lines. -/
def placeAfter (before : Text) : Place where
  line := before.count ('\n' : CodePoint) + 1
  column := (before.reverse.takeWhile (· ≠ ('\n' : CodePoint))).length + 1

/-- The line and column where a rest of a document begins. -/
def placeOf (document rest : Text) : Place :=
  placeAfter (document.take (document.length - rest.length))

end Json

end ShapeInference
