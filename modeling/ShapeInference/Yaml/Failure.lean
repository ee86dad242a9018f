import ShapeInference.Text.Quoted
import ShapeInference.Text.Utf8

/-!
# Failures of configuration documents

- `Yaml.Mark`: a place in a document;
- `Yaml.Problem`: what is wrong at a place, as a rule with what was being read and from where;
- `Yaml.Fault`: a scalar whose text has no value of the kind it is tagged with;
- `Yaml.Failure`: the causes, by the level at which a document breaks;
- `Yaml.Failure.message`: the wording, for a document with a name.
-/

namespace ShapeInference

namespace Yaml

/-- A place in a document, where line and column count from zero. -/
structure Mark where
  line : Nat
  column : Nat
  deriving DecidableEq, Repr

/-- What is wrong at a place, and what was being read where. -/
structure Problem where
  context : Option Text
  start : Option Mark
  problem : Text
  place : Mark
  deriving DecidableEq, Repr

/-- A scalar whose text has no value of the kind it is tagged with. -/
inductive Fault where
  /-- A text is no numeral in a base. -/
  | numeral (base : Nat) (t : Text)
  /-- A text is no decimal fraction. -/
  | fraction (t : Text)
  /-- A numeral has this many digits, which is too many. -/
  | longNumeral (digits : Nat)
  /-- A text has no first code point. -/
  | emptyText
  /-- A text is no word for a truth value. -/
  | truthValue (t : Text)
  /-- A text does not have the form of a date. -/
  | dateForm
  /-- A part of a date or time is out of range. -/
  | date (reason : Text)
  /-- An escape stands for no code point. -/
  | codePoint
  /-- An escape stands for a number that is too large to look at. -/
  | wideCodePoint
  /-- A number has so many parts of base sixty that the first one counts for too much. -/
  | wideNumber
  /-- A mapping stands for a date. -/
  | notText
  /-- A mapping stands for a scalar that is the mapping itself. -/
  | endless
  deriving DecidableEq, Repr

/-- The number of code points of a numeral that a message shows. -/
def shownNumeral : Nat := 200

/-- The wording of a fault. -/
def Fault.message : Fault → Text
  | numeral base t =>
    ("invalid literal for int() with base " : Text) ++ Text.ofNat base ++ (": " : Text)
      ++ t.quoted.take shownNumeral
  | fraction t => ("could not convert string to float: " : Text) ++ t.quoted
  | longNumeral digits =>
    ("Exceeds the limit (4300 digits) for integer string conversion: value has " : Text)
      ++ Text.ofNat digits
      ++ (" digits; use sys.set_int_max_str_digits() to increase the limit" : Text)
  | emptyText => "string index out of range"
  | truthValue t => t.quoted
  | dateForm => "'NoneType' object has no attribute 'groupdict'"
  | date reason => reason
  | codePoint => "chr() arg not in range(0x110000)"
  | wideCodePoint => "Python int too large to convert to C int"
  | wideNumber => "int too large to convert to float"
  | notText => "expected string or bytes-like object, got 'list'"
  | endless => "maximum recursion depth exceeded"

/-- Whether a fault lies in a value, as opposed to the program's own means. -/
def Fault.isValueError : Fault → Bool
  | numeral _ _ => true
  | fraction _ => true
  | longNumeral _ => true
  | date _ => true
  | codePoint => true
  | _ => false

/-- Why a document cannot be read. -/
inductive Failure where
  /-- Bytes that are no text. -/
  | undecodable (m : Utf8.Malformed)
  /-- A code point that no document may hold, with its position. -/
  | character (c : CodePoint) (position : Nat)
  /-- The text cannot be divided into tokens. -/
  | tokens (p : Problem)
  /-- The tokens do not form a document. -/
  | grammar (p : Problem)
  /-- Anchors and aliases do not match, or there are several documents. -/
  | references (p : Problem)
  /-- The nodes have no value. -/
  | content (p : Problem)
  /-- The text of a scalar has no value. -/
  | scalar (f : Fault)
  deriving DecidableEq, Repr

/-- A place in the document with a name. -/
def Mark.write (name : Text) (m : Mark) : Text :=
  ("  in \"" : Text) ++ name ++ ("\", line " : Text) ++ Text.ofNat (m.line + 1)
    ++ (", column " : Text) ++ Text.ofNat (m.column + 1)

/-- The lines of a message. The place where reading began is left out if it is the place of the
problem. -/
def Problem.message (name : Text) (p : Problem) : Text :=
  Text.join "\n"
    (p.context.toList
      ++ (if p.start = some p.place then [] else (p.start.map (Mark.write name)).toList)
      ++ [p.problem, p.place.write name])

/-- The wording of a failure. -/
def Failure.message (name : Text) : Failure → Text
  | undecodable m => m.message
  | character c position =>
    ("unacceptable character #x" : Text) ++ Text.hex 4 c.val
      ++ (": special characters are not allowed\n  in \"" : Text) ++ name
      ++ ("\", position " : Text) ++ Text.ofNat position
  | tokens p | grammar p | references p | content p => p.message name
  | scalar f => f.message

/-- Whether a failure is one of a document, or of a value in it. -/
def Failure.isReported : Failure → Bool
  | scalar f => f.isValueError
  | _ => true

end Yaml

end ShapeInference
