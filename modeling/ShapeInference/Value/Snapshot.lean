import ShapeInference.Text.Literal
import ShapeInference.Value.Inspect

/-!
# Snapshots (`_snapshot`)

A value that cannot be classified is described by a snapshot: its JSON text if it has one, and how
it is shown otherwise.

- `Value.json?`: the JSON text of a value, in ASCII, with a space after each comma and colon;
- `Value.snapshot?`: the snapshot.
-/

namespace ShapeInference

namespace Value

/-- The JSON words for truth values. -/
def jsonBool (b : Bool) : Text :=
  if b then "true" else "false"

/-- A number in a JSON text, where infinity and what is not a number have names. -/
def jsonFloat (x : Binary64) : Text :=
  if x.isNaN then "NaN"
  else if x.isInfinite then (if x.isNegative then "-Infinity" else "Infinity")
  else Layout.value.write x

/-- A key in a JSON text; numbers, truth values and the null value become texts. -/
def jsonKey? : Value → Option Text
  | null => some "null"
  | bool b => some (jsonBool b)
  | int n => Numeral.write? n
  | float x => some (jsonFloat x)
  | object _ _ _ (some (int n)) => Numeral.write? n
  | object _ _ _ (some (float x)) => some (jsonFloat x)
  | v => v.asText?

mutual

/-- The JSON text of a value (`json.dumps`). -/
def json? : Value → Option Text
  | null => some "null"
  | bool b => some (jsonBool b)
  | int n => Numeral.write? n
  | float x => some (jsonFloat x)
  | text t => some (Literal.write true t)
  | list items => (jsonItems? items).map (Text.enclosed "[" · "]")
  | tuple items => (jsonItems? items).map (Text.enclosed "[" · "]")
  | dictionary entries => (jsonEntries? entries).map (Text.enclosed "\x7b" · "\x7d")
  | tally _ counts => (jsonEntries? counts).map (Text.enclosed "\x7b" · "\x7d")
  | strategy s => some (Literal.write true s.name)
  | primitive p => some (Literal.write true p.name)
  | object _ _ _ content =>
    match content with
    | some v => json? v
    | none => none
  | _ => none

/-- The JSON texts of items. -/
def jsonItems? : List Value → Option (List Text)
  | [] => some []
  | v :: vs => do return (← json? v) :: (← jsonItems? vs)

/-- The JSON texts of entries. -/
def jsonEntries? : List (Value × Value) → Option (List Text)
  | [] => some []
  | (k, v) :: rest => do
    let key ← jsonKey? k
    let value ← json? v
    return (Literal.write true key ++ (": " : Text) ++ value) :: (← jsonEntries? rest)

end

/-- The description of a value that cannot be classified (`_snapshot`). -/
def snapshot? (v : Value) : Option Text :=
  match v.json? with
  | some t => some t
  | none => v.inspect?

end Value

end ShapeInference
