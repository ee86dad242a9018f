import ShapeInference.Machine
import ShapeInference.Shape.Declaration
import ShapeInference.Shape.Margin
import ShapeInference.Value.Inspect

/-!
# Requests (`SamplingStrategy.parse`, `sample`, `render`, `declare`)

What callers ask for is checked before it is done. Arguments come as values of any class; their
classes are checked first, in order, then what they hold.

- `Value.shown`, `Value.spelled`: a value in a message;
- `Strategy.ofValue`, `Primitive.ofValue`: a strategy or a simple kind by its name;
- `Value.sample`: the elements of a sequence that a strategy looks at;
- `Request.write`: a shape as a type expression;
- `Request.declare`: a shape as a declaration.

What takes memory or stack is asked of a `Machine`, and fails if there is not enough.
-/

namespace ShapeInference

namespace Value

/-- A value as it is shown in a message, unless it holds an integer that is too long. -/
def shown (v : Value) : Except Failure Text :=
  match v.inspect? with
  | some t => .ok t
  | none => .error .longNumeral

/-- A value as a text in a message, unless it holds an integer that is too long. -/
def spelled (v : Value) : Except Failure Text :=
  match v.spell? with
  | some t => .ok t
  | none => .error .longNumeral

end Value

/-- The strategy that a value is or names (`SamplingStrategy.parse`). -/
def Strategy.ofValue (v : Value) : Except Failure Strategy :=
  match v.asText?.bind ofName? with
  | some s => .ok s
  | none => v.shown.bind fun shown => .error (.unknownStrategy shown)

/-- The simple kind that a value is or names. -/
def Primitive.ofValue (v : Value) : Except Failure Primitive :=
  match v.asText?.bind ofName? with
  | some p => .ok p
  | none => v.shown.bind fun shown => .error (.unknownPrimitive shown)

namespace Value

/-- The number of elements of a value that has a length. -/
def length? : Value → Option Nat
  | text t => some t.length
  | strategy s => some s.name.length
  | primitive p => some p.name.length
  | list items => some items.length
  | tuple items => some items.length
  | dictionary entries => some entries.length
  | set _ items => some items.length
  | bytes _ octets => some octets.length
  | range start stop step => some (rangeLength start stop step)
  | view _ _ entries => some entries.length
  | proxy viewed => length? viewed
  | row _ _ items => some items.length
  | tally _ counts => some counts.length
  | object _ _ _ (some (text t)) => some t.length
  | object _ _ _ (some (list items)) => some items.length
  | object _ _ _ (some (tuple items)) => some items.length
  | object _ _ _ (some (dictionary entries)) => some entries.length
  | _ => none

/-- The elements of a value that holds them one after the other. -/
def elements? : Value → Option (List Value)
  | list items | tuple items | object _ _ _ (some (list items))
  | object _ _ _ (some (tuple items)) | row _ _ items => some items
  | bytes _ octets => some (octets.map fun b => int b.toNat)
  | v => v.asText?.map (·.map fun c => text [c])

/-- The value of a position in a dictionary that has it as a key. -/
def entryAt (entries : List (Value × Value)) (i : Nat) : Except Failure Value :=
  match Entries.first? sameKey (int i) entries with
  | some v => .ok v
  | none => .error (.missingKey i)

/-- The element at a position of a value that has a length, but does not hold its elements one after
the other. -/
def elementAt (i : Nat) : Value → Except Failure Value
  | dictionary entries | object _ _ _ (some (dictionary entries)) => entryAt entries i
  | tally _ counts => .ok ((Entries.first? sameKey (int i) counts).getD (int 0))
  | proxy viewed => elementAt i viewed
  | range start _ step => .ok (int (start + step * i))
  | v => .error (.notIndexed v.classOf.ownName)

/-- Whether a value counts as given, as it says itself. A class that only has a length says so by
it, and the length has to be counted then. -/
def saysTruthy : Value → Except Failure Bool
  | row cls shown items =>
    if maxLength < items.length then .error .uncountedLength
    else .ok (row cls shown items).isTruthy
  | v => .ok v.isTruthy

/-- The positions that a strategy looks at, in a sequence of `n` elements (`_indices`). If these are
all, there has to be memory for so many. -/
def listPositions (m : Machine) (s : Strategy) (n : Nat) : Except Failure (List Nat) :=
  if maxLength < n then .error .longSequence
  else if s = .all && !m.holds n then .error .exhausted
  else .ok (s.positions n)

/-- The elements of a value that a strategy looks at, on a machine (`sample`). The strategy is
checked first; a value that does not count as given has no elements. -/
def sample (m : Machine) (items : Value) : Value → Except Failure (List Value)
  | strategy s => do
    if ← items.saysTruthy then
      match items.elements?, items.length? with
      | some elements, _ => (listPositions m s elements.length).map fun _ => s.sample elements
      | none, some n => (← listPositions m s n).mapM (items.elementAt ·)
      | none, none => .error (.noLength items.classOf.ownName)
    else return []
  | v => v.shown.bind fun shown => .error (.unvalidatedStrategy shown)

end Value

namespace Request

/-- A value by its class in a message about arguments; a class is named itself. -/
def given : Value → Text
  | .null => "None"
  | .classObject c _ => ("class " : Text) ++ c.describedName
  | v => v.classOf.describedName

/-- The shape that an argument is. -/
def shape : Value → Except Failure Shape
  | .shape s => .ok s
  | v => .error (.wrongClass "t" (given v) (Value.shape .empty).classOf.describedName)

/-- The text that an argument is. -/
def name (v : Value) : Except Failure Text :=
  match v.asText? with
  | some t => .ok t
  | none => .error (.wrongClass "name" (given v) "str")

/-- The integer that an argument is; nothing stands for zero. -/
def indent : Value → Except Failure Int
  | .null => .ok 0
  | v =>
    match v.asInt? with
    | some n => .ok n
    | none => .error (.wrongIndent (given v))

/-- An indent that is not negative; `v` is the value it came from. -/
def checkIndent (v : Value) (n : Int) : Except Failure Nat :=
  if n < 0 then v.spelled.bind fun spelled => .error (.negativeIndent spelled)
  else .ok n.toNat

/-- What stands in the way of writing a shape with an indent on a machine: that it runs out of
something, or comes to a margin that is too wide to be counted. -/
def checkRoom (m : Machine) (s : Shape) (indent : Nat) : Except Failure Unit :=
  match m.writing s indent with
  | some shortage => .error shortage.failure
  | none =>
    (s.margins indent).forM fun width =>
      if maxLength < width then .error .wideMargin else .ok ()

/-- A name that can be declared; `v` is the value it came from. -/
def checkName (v : Value) (t : Text) : Except Failure Text :=
  if t.isTypeName then .ok t
  else v.shown.bind fun shown => .error (.invalidTypeName shown)

/-- Whether a value is a sequence of bytes. -/
def isBytes : Value → Bool
  | .bytes _ _ => true
  | .row cls _ _ => cls = ⟨"array", "array", true⟩
  | _ => false

/-- The text of a value that is taken for the name of a property or type (`render_property`,
`is_type_name`). -/
def spelling (v : Value) : Except Failure Text :=
  match v.asText? with
  | some t => .ok t
  | none => if isBytes v then .error .notCharacters else .error (.notText v.classOf.ownName)

/-- A shape as a type expression (`render`). -/
def write (m : Machine) (s indentation : Value) : Except Failure Text := do
  let s ← shape s
  let n ← indent indentation
  let k ← checkIndent indentation n
  checkRoom m s k
  return s.write k

/-- A shape as a declaration (`declare`). -/
def declare (m : Machine) (s label indentation : Value) : Except Failure Text := do
  let s ← shape s
  let t ← name label
  let n ← indent indentation
  let t ← checkName label t
  let k ← checkIndent indentation n
  checkRoom m s k
  return Declaration.write s t k

end Request

end ShapeInference
