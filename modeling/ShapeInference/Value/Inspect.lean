import ShapeInference.Number.Layout
import ShapeInference.Text.Numeral
import ShapeInference.Text.Quoted
import ShapeInference.Value.Basic

/-!
# How values are shown (`repr`, `str`)

- `Value.inspect?`: a value as it is shown in messages;
- `Value.spell?`: a value as a text: texts and named constants stand for themselves, an error for
  its arguments unless its class words it otherwise, and other values are shown.

Neither can write an integer that is too long for a numeral, so both may give nothing.
-/

namespace ShapeInference

/-- The words for truth values. -/
def Text.ofBool (b : Bool) : Text :=
  if b then "True" else "False"

/-- Texts between two others, with commas between them. -/
def Text.enclosed (opening : Text) (items : List Text) (closing : Text) : Text :=
  opening ++ Text.join ", " items ++ closing

/-- The items of a tuple between parentheses; a single one is followed by a comma. -/
def Text.tupled (items : List Text) : Text :=
  match items with
  | [item] => ("(" : Text) ++ item ++ (",)" : Text)
  | _ => enclosed "(" items ")"

/-- A constant by its class, name and text. -/
def Text.constant (className name value : Text) : Text :=
  ("<" : Text) ++ className ++ ("." : Text) ++ name ++ (": " : Text) ++ value.quoted
    ++ (">" : Text)

namespace Strategy

/-- A strategy as it is shown. -/
def inspect (s : Strategy) : Text :=
  Text.constant "SamplingStrategy" s.constant s.name

end Strategy

namespace Primitive

/-- A primitive kind as it is shown. -/
def inspect (p : Primitive) : Text :=
  Text.constant "SimpleKind" (p.name.map fun c => CodePoint.ofNat (c.val - 0x20)) p.name

end Primitive

/-- The items of an unordered collection with its class around them. -/
def Text.unordered (className : Text) (items : List Text) : Text :=
  className ++ (if items.isEmpty then ("()" : Text) else enclosed "(\x7b" items "\x7d)")

namespace Shape

mutual

/-- A shape as it is shown. -/
def inspect : Shape → Text
  | node p c e m =>
    ("Type(simples=" : Text) ++ Text.unordered "frozenset" (p.toList.map Primitive.inspect)
      ++ (", members=" : Text)
      ++ (match m with
          | none => "None"
          | some ms => Text.tupled (inspectMembers ms))
      ++ (", instance_of=" : Text) ++ Text.unordered "frozenset" (c.toList.map Text.quoted)
      ++ (", array=" : Text)
      ++ (match e with
          | none => "None"
          | some x => inspect x)
      ++ (")" : Text)

/-- The members of a shape as they are shown. -/
def inspectMembers : List (Text × Shape) → List Text
  | [] => []
  | (name, s) :: ms => Text.tupled [name.quoted, inspect s] :: inspectMembers ms

end

end Shape

namespace Value

/-- A complex number: the real part is left out when it is a positive zero. -/
def inspectComplex (re im : Binary64) : Text :=
  if re.isZero && !re.isNegative then Layout.part.write im ++ ("j" : Text)
  else
    ("(" : Text) ++ Layout.part.write re ++ Layout.part.writeSigned im ++ ("j)" : Text)

/-- A range: the step is left out when it is one. -/
def inspectRange? (start stop step : Int) : Option Text := do
  let first ← Numeral.write? start
  let last ← Numeral.write? stop
  let stride ← Numeral.write? step
  return Text.enclosed "range(" (if step = 1 then [first, last] else [first, last, stride]) ")"

/-- An instance that does not say how it is shown. -/
def inspectPlain (cls : Class) : Text :=
  ("<" : Text) ++ cls.home ++ ("." : Text) ++ cls.name ++ (" object>" : Text)

mutual

/-- A value as it is shown in messages. -/
def inspect? : Value → Option Text
  | null => some "None"
  | undefined => some "UNDEFINED"
  | bool b => some (Text.ofBool b)
  | int n => Numeral.write? n
  | float x => some (Layout.value.write x)
  | text t => some t.quoted
  | list items => (inspectItems? items).map (Text.enclosed "[" · "]")
  | tuple items => (inspectItems? items).map Text.tupled
  | dictionary entries => (inspectEntries? entries).map (Text.enclosed "\x7b" · "\x7d")
  | function _ shown => some shown
  | classObject c _ => some (("<class " : Text) ++ c.qualifiedName.quoted ++ (">" : Text))
  | strategy s => some s.inspect
  | primitive p => some p.inspect
  | shape s => some s.inspect
  | object cls shown _ content =>
    match shown, content with
    | some t, _ => some t
    | none, some v => inspect? v
    | none, none => some (inspectPlain cls)
  | row _ shown _ => some shown
  | tally shown _ => some shown
  | set frozen items =>
    (inspectItems? items).map fun texts =>
      if frozen then Text.unordered "frozenset" texts
      else if texts.isEmpty then "set()"
      else Text.enclosed "\x7b" texts "\x7d"
  | bytes mutable octets =>
    some (if mutable then ("bytearray(b" : Text) ++ Bytes.quotedBuffer octets ++ (")" : Text)
      else 'b' :: Bytes.quoted octets)
  | complex re im => some (inspectComplex re im)
  | range start stop step => inspectRange? start stop step
  | slice start stop step => do
    return Text.enclosed "slice(" [← inspect? start, ← inspect? stop, ← inspect? step] ")"
  | view v ordered entries =>
    let texts :=
      match v with
      | .keys => inspectKeys? entries
      | .values => inspectValues? entries
      | .items => inspectPairs? entries
    texts.map (Text.enclosed (v.className ordered ++ ("([" : Text)) · "])")
  | proxy viewed => (inspect? viewed).map fun t => ("mappingproxy(" : Text) ++ t ++ (")" : Text)
  | exception className _ args =>
    (inspectItems? args).map fun texts => className ++ Text.enclosed "(" texts ")"
  | builtin _ shown => some shown

/-- The items of a list as they are shown. -/
def inspectItems? : List Value → Option (List Text)
  | [] => some []
  | v :: vs => do return (← inspect? v) :: (← inspectItems? vs)

/-- The entries of a dictionary as they are shown. -/
def inspectEntries? : List (Value × Value) → Option (List Text)
  | [] => some []
  | (k, v) :: rest => do
    let key ← inspect? k
    let value ← inspect? v
    return (key ++ (": " : Text) ++ value) :: (← inspectEntries? rest)

/-- The keys of a dictionary as they are shown. -/
def inspectKeys? : List (Value × Value) → Option (List Text)
  | [] => some []
  | (k, _) :: rest => do return (← inspect? k) :: (← inspectKeys? rest)

/-- The values of a dictionary as they are shown. -/
def inspectValues? : List (Value × Value) → Option (List Text)
  | [] => some []
  | (_, v) :: rest => do return (← inspect? v) :: (← inspectValues? rest)

/-- The entries of a dictionary as they are shown as pairs. -/
def inspectPairs? : List (Value × Value) → Option (List Text)
  | [] => some []
  | (k, v) :: rest => do
    let key ← inspect? k
    let value ← inspect? v
    return Text.tupled [key, value] :: (← inspectPairs? rest)

end

/-- A value as a text. -/
def spell? : Value → Option Text
  | text t => some t
  | strategy s => some s.name
  | primitive p => some p.name
  | object cls shown spelled content =>
    match spelled, content with
    | some t, _ => some t
    | none, some (text t) => some t
    | none, _ => inspect? (object cls shown spelled content)
  | exception className spelled args =>
    match spelled, args with
    | some t, _ => some t
    | none, [] => some []
    | none, [v] => if className = ("KeyError" : Text) then inspect? v else spell? v
    | none, _ => (inspectItems? args).map Text.tupled
  | proxy viewed => spell? viewed
  | v => inspect? v

end Value

end ShapeInference
