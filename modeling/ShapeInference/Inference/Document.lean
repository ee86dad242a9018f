import ShapeInference.Inference.Classification
import ShapeInference.Json.Decode

/-!
# Inference from documents (`load_json`, `infer`)

- `Document.ofText`, `Document.ofBytes`: the value of a document that is given as a text or as
  bytes, with what is reported if it cannot be read;
- `Document.load`: the value of a document, whatever it is given as;
- `Document.infer`: the shape of a document.

A shape is reported with its strategy after everything that was met on the way.
-/

namespace ShapeInference

namespace Document

/-- The reason for which the name of a number that is not finite is refused (`_reject_constant`). -/
def constantReason (name : Text) : Text :=
  name ++ (" is not valid JSON" : Text)

/-- The run that ends as the decoding of a text does. A broken form is reported with its place, a
refused constant without one; an integer that is too long is not reported at all. -/
def ofDecoded (t : Text) : Except Json.Flaw Value → Logged Value
  | .ok v => .done v
  | .error (.malformed reason rest) => do
    let place := Json.placeOf t rest
    Logged.report (.invalidInput reason.message (some place))
    Logged.fail (.invalidInput reason.message (some place))
  | .error (.constant name) => do
    Logged.report (.invalidInput (constantReason name) none)
    Logged.fail (.invalidInput (constantReason name) none)
  | .error (.longInteger digits) => .fail (.longLiteral digits)

/-- The value of a document that is given as a text. -/
def ofText (t : Text) : Logged Value :=
  ofDecoded t (Json.decode t)

/-- The value of a document in bytes. If they are not UTF-8, this is reported without a place. -/
def ofBytes (bytes : List UInt8) : Logged Value :=
  match Utf8.decode bytes with
  | .ok t => ofText t
  | .error flaw => do
    Logged.report (.invalidInput flaw.message none)
    Logged.fail (.invalidInput flaw.message none)

/-- The value of a document in a buffer of bytes, whose encoding is told from its content. That
there is no text in it is not reported. A byte order mark has been decoded with the text. -/
def ofBuffer (bytes : List UInt8) : Logged Value :=
  match Encoding.decodeAny bytes with
  | .ok t => ofDecoded t (Json.readDocument t)
  | .error flaw => .fail (.undecodable flaw)

/-- The value of a document (`load_json`). -/
def load (document : Value) : Logged Value :=
  match document.asText?, document with
  | some t, _ => ofText t
  | none, .bytes false octets => ofBytes octets
  | none, .bytes true octets => ofBuffer octets
  | none, v => .fail (.notDocument v.classOf.name)

/-- The shape of a document, inferred with a strategy. -/
def inferWith (s : Strategy) (document : Value) : Logged Shape := do
  let value ← load document
  let shape ← value.classify s
  Logged.report (.inferred s)
  return shape

/-- The shape of a document, inferred with the strategy that a value is or names (`infer`). -/
def infer (document strategy : Value) : Logged Shape := do
  inferWith (← Logged.ofExcept (Strategy.ofValue strategy)) document

end Document

end ShapeInference
