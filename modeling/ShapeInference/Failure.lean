import ShapeInference.Sampling
import ShapeInference.Text.Encoding
import ShapeInference.Text.Quoted

/-!
# Failures (`InvalidInputError`, `UnsupportedValueKind`, `InvariantViolation`)

Every way in which a request can fail, with its cause, and the wording of each in one place.

- `Place`: a line and a column of a document;
- `Failure`: the causes;
- `Failure.message`: their wording;
- `Failure.isLibrary`: the failures that a document or a value is at fault for;
- `Failure.isValueError`: the failures for which some given value is at fault.
-/

namespace ShapeInference

/-- A line and a column of a document, both counted from one. -/
structure Place where
  line : Nat
  column : Nat
  deriving DecidableEq, Repr

/-- The cause of a failure. -/
inductive Failure where
  /-- The input is no well-formed document; the place is there when it is a matter of form
  (`InvalidInputError`). -/
  | invalidInput (reason : Text) (place : Option Place)
  /-- A value of this class cannot be classified; it is described by a snapshot and was found at a
  path (`UnsupportedValueKind`). -/
  | unsupported (className snapshot path : Text)
  /-- What was given as a strategy to sample with is none (`InvariantViolation`). -/
  | unvalidatedStrategy (shown : Text)
  /-- No strategy has this name. -/
  | unknownStrategy (shown : Text)
  /-- No kind of simple values has this name. -/
  | unknownPrimitive (shown : Text)
  /-- A type cannot be declared under this name. -/
  | invalidTypeName (shown : Text)
  /-- An indent is no integer. -/
  | indentNotInteger (shown : Text)
  /-- An indent is below zero. -/
  | negativeIndent (indent : Text)
  /-- A setting that does not exist is given. -/
  | unknownSetting (name : Text)
  /-- A setting has the name of an argument that is there already when settings are made so. -/
  | reservedSetting (maker name : Text)
  /-- An integer has more digits than a numeral may have. -/
  | longNumeral
  /-- A numeral has more digits than it may have. -/
  | longLiteral (digits : Nat)
  /-- A buffer of bytes has no text. -/
  | undecodable (flaw : Encoding.Flaw)
  /-- An instance of this class is given as a document. -/
  | notDocument (className : Text)
  /-- An argument belongs to a class that is not the one expected. -/
  | wrongClass (argument given expected : Text)
  /-- An indent belongs to a class that is neither of the two expected. -/
  | wrongIndent (given : Text)
  /-- A sequence that is sampled is longer than can be counted. -/
  | longSequence
  /-- Instances of this class are sampled, but have no length. -/
  | noLength (className : Text)
  /-- Instances of this class are sampled, but have no positions. -/
  | notIndexed (className : Text)
  /-- An instance of this class is taken for a text. -/
  | notText (className : Text)
  /-- Bytes are taken for a text. -/
  | notCharacters
  /-- No level of events has this name. -/
  | unknownLevel (shown : Text)
  /-- What is given as a level of events is neither a number nor a name. -/
  | notLevel (shown : Text)
  /-- A dictionary that is sampled has no entry for a position. -/
  | missingKey (index : Nat)
  /-- A sequence whose length cannot be counted is asked whether it counts as given. -/
  | uncountedLength
  /-- A margin is wider than can be counted. -/
  | wideMargin
  /-- There is not enough memory. -/
  | exhausted
  /-- Calls are nested too deeply, where one of this kind is made. -/
  | tooDeep (place : Text)
  /-- An error is made without these arguments. -/
  | missingArguments (errorClass : Text) (names : List Text)
  /-- An error is made with too many arguments. -/
  | excessArguments (errorClass : Text) (least most given : Nat)
  deriving DecidableEq, Repr

namespace Failure

/-- Where in a document the input is wrong, as it stands in a message. -/
def located (place : Option Place) : Text :=
  match place with
  | none => []
  | some p =>
    (" (line " : Text) ++ Text.ofNat p.line ++ (", column " : Text) ++ Text.ofNat p.column
      ++ (")" : Text)

/-- The beginning of the wording for numerals that are too long. -/
def digitLimit : Text :=
  "Exceeds the limit (4300 digits) for integer string conversion"

/-- The advice for numerals that are too long. -/
def digitLimitAdvice : Text :=
  "; use sys.set_int_max_str_digits() to increase the limit"

/-- The wording for numbers that are too large to be counted with. -/
def indexLimit : Text := "cannot fit 'int' into an index-sized integer"

/-- The wording of a failure. -/
def message : Failure → Text
  | invalidInput reason place =>
    ("Invalid JSON input" : Text) ++ located place ++ (": " : Text) ++ reason
  | unsupported className snapshot path =>
    ("Unrecognised value of type " : Text) ++ className ++ (" at " : Text) ++ path ++ (": " : Text)
      ++ snapshot
  | unvalidatedStrategy shown =>
    ("Sampling strategy must be validated before sampling, got " : Text) ++ shown
  | unknownStrategy shown =>
    ("Unknown sampling strategy " : Text) ++ shown ++ ("; expected one of " : Text)
      ++ Text.join ", " (Strategy.every.map fun s => s.name.quoted)
  | unknownPrimitive shown => shown ++ (" is not a valid SimpleKind" : Text)
  | invalidTypeName shown =>
    ("Type name " : Text) ++ shown ++ (" is not a valid identifier or is reserved" : Text)
  | indentNotInteger shown => ("indent must be an integer, got " : Text) ++ shown
  | negativeIndent indent => ("indent must not be negative, got " : Text) ++ indent
  | unknownSetting name =>
    ("DriverSettings.__init__() got an unexpected keyword argument '" : Text) ++ name
      ++ ("'" : Text)
  | reservedSetting maker name =>
    ("DriverSettings." : Text) ++ maker ++ ("() got multiple values for argument '" : Text) ++ name
      ++ ("'" : Text)
  | longNumeral => digitLimit ++ digitLimitAdvice
  | longLiteral digits =>
    digitLimit ++ (": value has " : Text) ++ Text.ofNat digits ++ (" digits" : Text)
      ++ digitLimitAdvice
  | undecodable flaw => flaw.message
  | notDocument className =>
    ("the JSON object must be str, bytes or bytearray, not " : Text) ++ className
  | wrongClass argument given expected =>
    ("argument \"" : Text) ++ argument ++ ("\" (" : Text) ++ given
      ++ (") is not an instance of " : Text) ++ expected
  | wrongIndent given =>
    ("argument \"indent\" (" : Text) ++ given
      ++ (") did not match any element in the union:\n  int: is not an instance of int\n" : Text)
      ++ ("  NoneType: is not an instance of NoneType" : Text)
  | longSequence => "Python int too large to convert to C ssize_t"
  | noLength className => ("object of type '" : Text) ++ className ++ ("' has no len()" : Text)
  | notIndexed className => ("'" : Text) ++ className ++ ("' object is not subscriptable" : Text)
  | notText className =>
    ("expected string or bytes-like object, got '" : Text) ++ className ++ ("'" : Text)
  | notCharacters => "cannot use a string pattern on a bytes-like object"
  | unknownLevel shown => ("Unknown level: " : Text) ++ shown
  | notLevel shown => ("Level not an integer or a valid string: " : Text) ++ shown
  | missingKey index => Text.ofNat index
  | uncountedLength => indexLimit
  | wideMargin => indexLimit
  | exhausted => []
  | tooDeep place => ("maximum recursion depth exceeded" : Text) ++ place
  | missingArguments errorClass names =>
    errorClass ++ (".__init__() missing " : Text) ++ Text.ofNat names.length
      ++ (" required positional argument" : Text) ++ (if names.length = 1 then [] else ("s" : Text))
      ++ (": " : Text) ++ Text.join " and " (names.map Text.quoted)
  | excessArguments errorClass least most given =>
    errorClass ++ (".__init__() takes from " : Text) ++ Text.ofNat (least + 1) ++ (" to " : Text)
      ++ Text.ofNat (most + 1) ++ (" positional arguments but " : Text) ++ Text.ofNat (given + 1)
      ++ (" were given" : Text)

/-- Whether the document or the value given is at fault, or a strategy that was not checked. -/
def isLibrary : Failure → Bool
  | invalidInput _ _ => true
  | unsupported _ _ _ => true
  | unvalidatedStrategy _ => true
  | _ => false

/-- Whether some given value is at fault, as opposed to the class of an argument. -/
def isValueError : Failure → Bool
  | invalidInput _ _ => true
  | unknownStrategy _ => true
  | unknownPrimitive _ => true
  | invalidTypeName _ => true
  | indentNotInteger _ => true
  | negativeIndent _ => true
  | unknownLevel _ => true
  | longNumeral => true
  | longLiteral _ => true
  | undecodable _ => true
  | _ => false

end Failure

end ShapeInference
