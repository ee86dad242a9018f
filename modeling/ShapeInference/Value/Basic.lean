import ShapeInference.Number.Quantity
import ShapeInference.Sampling
import ShapeInference.Shape.Basic

/-!
# Values (`kind_of`)

The values that can be classified: what a document decodes to, and what a program may hold beside
that. Only lists, tuples and dictionaries are looked into; every other value is what its class is.

- `Class`: a class by the module that defines it and its name;
- `Value`: a value;
- `Value.classOf`: the class of a value;
- `Kind`, `Value.kind?`: what a value is classified as, if anything;
- `Value.asText?`, `Value.asInt?`, `Value.asEntries?`: the text, integer or dictionary that a value
  is, possibly as an instance of a derived class;
- `Value.isTruthy`: whether a value counts as given;
- `Value.quantity?`: what a value amounts to if it is a number;
- `Value.sameKey`: whether two keys of a dictionary are one.
-/

namespace ShapeInference

/-- A class by the module that defines it and its name. Some carry their module in their name. -/
structure Class where
  home : Text
  name : Text
  isCarrying : Bool
  deriving DecidableEq

namespace Class

/-- The module of the classes that need no import. -/
def builtins : Text := "builtins"

/-- A class that needs no import. -/
def builtin (name : Text) : Class := ⟨builtins, name, false⟩

/-- The name of a class with its module, unless it needs no import. -/
def qualifiedName (c : Class) : Text :=
  if c.home = builtins then c.name else c.home ++ ("." : Text) ++ c.name

/-- The modules that are left out where arguments are described by their class. -/
def unnamedHomes : List Text := [builtins, "typing"]

/-- The name of a class where an argument is described by it. -/
def describedName (c : Class) : Text :=
  if unnamedHomes.contains c.home then c.name else c.qualifiedName

/-- The name of a class where a value cannot do what is asked of it. -/
def ownName (c : Class) : Text :=
  if c.isCarrying then c.qualifiedName else c.name

end Class

/-- The views of a dictionary. -/
inductive View where
  | keys
  | values
  | items
  deriving DecidableEq, Repr

namespace View

/-- The name of a view. -/
def name : View → Text
  | keys => "keys"
  | values => "values"
  | items => "items"

/-- The class of a view; `ordered` says whether the dictionary is an ordered one. -/
def className (v : View) (ordered : Bool) : Text :=
  (if ordered then ("odict_" : Text) else ("dict_" : Text)) ++ v.name

end View

/-- A value. -/
inductive Value where
  /-- The value that stands for nothing. -/
  | null
  /-- What stands for a value that is not there at all (`UNDEFINED`). -/
  | undefined
  | bool (b : Bool)
  | int (n : Int)
  | float (x : Binary64)
  | text (t : Text)
  | list (items : List Value)
  | tuple (items : List Value)
  /-- A dictionary with its entries in order. -/
  | dictionary (entries : List (Value × Value))
  /-- Something that can be called, with its class and how it is shown. -/
  | function (className shown : Text)
  /-- A class as a value, with the class of the class. -/
  | classObject (described : Class) (className : Text)
  | strategy (s : Strategy)
  | primitive (p : Primitive)
  | shape (s : Shape)
  /-- An instance of a class: how it is shown and how it is spelled as a text, if it says so itself,
  and the text, number or container that it also is, if its class is derived from one of theirs. -/
  | object (cls : Class) (shown spelled : Option Text) (content : Option Value)
  /-- An instance of a class that holds items one after the other, though it is derived neither from
  lists nor from tuples, and how it is shown. -/
  | row (cls : Class) (shown : Text) (items : List Value)
  /-- A dictionary of counts, where a key that is missing counts zero, and how it is shown. -/
  | tally (shown : Text) (counts : List (Value × Value))
  | set (frozen : Bool) (items : List Value)
  | bytes (mutable : Bool) (octets : List UInt8)
  | complex (re im : Binary64)
  | range (start stop step : Int)
  | slice (start stop step : Value)
  | view (view : View) (ordered : Bool) (entries : List (Value × Value))
  /-- A dictionary that cannot be changed through this value. -/
  | proxy (viewed : Value)
  /-- An error as a value, with its class and arguments, and how it is spelled as a text if its
  class has words of its own for it, as those of errors of a system and of groups of errors have. -/
  | exception (className : Text) (spelled : Option Text) (args : List Value)
  /-- An instance of a class that needs no import, by its class and how it is shown. -/
  | builtin (className shown : Text)

namespace Value

/-- The class of a value. -/
def classOf : Value → Class
  | null => .builtin "NoneType"
  | undefined => ⟨"typeshape.core.classify", "_Undefined", false⟩
  | bool _ => .builtin "bool"
  | int _ => .builtin "int"
  | float _ => .builtin "float"
  | text _ => .builtin "str"
  | list _ => .builtin "list"
  | tuple _ => .builtin "tuple"
  | dictionary _ => .builtin "dict"
  | function className _ => .builtin className
  | classObject _ className => .builtin className
  | strategy _ => ⟨"typeshape.core.sampling", "SamplingStrategy", false⟩
  | primitive _ => ⟨"typeshape.core.lattice", "SimpleKind", false⟩
  | shape _ => ⟨"typeshape.core.lattice", "Type", false⟩
  | object cls _ _ _ => cls
  | row cls _ _ => cls
  | tally _ _ => ⟨"collections", "Counter", false⟩
  | set frozen _ => .builtin (if frozen then "frozenset" else "set")
  | bytes mutable _ => .builtin (if mutable then "bytearray" else "bytes")
  | complex _ _ => .builtin "complex"
  | range _ _ _ => .builtin "range"
  | slice _ _ _ => .builtin "slice"
  | view v ordered _ => .builtin (v.className ordered)
  | proxy _ => .builtin "mappingproxy"
  | exception className _ _ => .builtin className
  | builtin className _ => .builtin className

end Value

/-- What a value is classified as (`ValueKind`). -/
inductive Kind where
  | simple (p : Primitive)
  | array
  | object
  | named
  deriving DecidableEq, Repr

/-- The name of a kind. -/
def Kind.name : Kind → Text
  | .simple p => p.name
  | .array => "array"
  | .object => "object"
  | .named => "named"

namespace Value

/-- What a value is classified as (`kind_of`). Containers count only as instances of their very
class; an instance of any class that has to be imported is named after it, and what is left has no
kind. -/
def kind? : Value → Option Kind
  | null => some (.simple .null)
  | undefined => some (.simple .undefined)
  | bool _ => some (.simple .boolean)
  | int _ => some (.simple .number)
  | float _ => some (.simple .number)
  | text _ => some (.simple .string)
  | list _ => some .array
  | tuple _ => some .array
  | dictionary _ => some .object
  | function _ _ => some (.simple .function)
  | classObject _ _ => some (.simple .function)
  | v => if v.classOf.home = Class.builtins then none else some .named

/-- The text that a value is. -/
def asText? : Value → Option Text
  | text t => some t
  | strategy s => some s.name
  | primitive p => some p.name
  | object _ _ _ (some (text t)) => some t
  | _ => none

/-- The integer that a value is; truth values count as integers. -/
def asInt? : Value → Option Int
  | int n => some n
  | bool b => some (if b then 1 else 0)
  | object _ _ _ (some (int n)) => some n
  | _ => none

/-- The entries of the dictionary that a value is. -/
def asEntries? : Value → Option (List (Value × Value))
  | dictionary entries => some entries
  | object _ _ _ (some (dictionary entries)) => some entries
  | tally _ counts => some counts
  | _ => none

/-- The number of steps of a range. -/
def rangeLength (start stop step : Int) : Nat :=
  if 0 < step then ((stop - start + step - 1) / step).toNat
  else if step < 0 then ((start - stop - step - 1) / (-step)).toNat
  else 0

/-- Whether a value counts as given: zero and whatever is empty does not. -/
def isTruthy : Value → Bool
  | null => false
  | undefined => false
  | bool b => b
  | int n => n ≠ 0
  | float x => !x.isZero
  | text t => !t.isEmpty
  | list items => !items.isEmpty
  | tuple items => !items.isEmpty
  | dictionary entries => !entries.isEmpty
  | object _ _ _ content =>
    match content with
    | none => true
    | some v => isTruthy v
  | row _ _ items => !items.isEmpty
  | tally _ counts => !counts.isEmpty
  | set _ items => !items.isEmpty
  | bytes _ octets => !octets.isEmpty
  | complex re im => !re.isZero || !im.isZero
  | range start stop step => rangeLength start stop step ≠ 0
  | view _ _ entries => !entries.isEmpty
  | proxy viewed => isTruthy viewed
  | _ => true

/-- The classes of numbers that are spelled exactly. -/
def exactClasses : List Class := [⟨"decimal", "Decimal", true⟩, ⟨"fractions", "Fraction", false⟩]

/-- What a value amounts to if it is a number. A complex number has to be a real one. -/
def quantity? : Value → Option Quantity
  | bool b => some (.ofInt (if b then 1 else 0))
  | int n => some (.ofInt n)
  | float x => Quantity.ofBinary? x
  | complex re im => if im.isZero then Quantity.ofBinary? re else none
  | object _ _ _ (some (int n)) => some (.ofInt n)
  | object _ _ _ (some (float x)) => Quantity.ofBinary? x
  | object cls _ (some spelled) none =>
    if exactClasses.contains cls then Quantity.ofSpelling? spelled else none
  | _ => none

/-- The items of the tuple that a value is. -/
def asTuple? : Value → Option (List Value)
  | tuple items => some items
  | object _ _ _ (some (tuple items)) => some items
  | _ => none

/-- Whether two ranges hold the same numbers. -/
def sameRange (start stop step start' stop' step' : Int) : Bool :=
  let length := rangeLength start stop step
  length = rangeLength start' stop' step'
    && (length = 0 || (start = start' && (length = 1 || step = step')))

mutual

/-- Whether two keys of a dictionary are one: numbers by what they amount to, texts by their code
points, tuples item by item, and sets whatever the order of their items. -/
def sameKey : Value → Value → Bool
  | null, w =>
    match w with
    | null => true
    | _ => false
  | undefined, w =>
    match w with
    | undefined => true
    | _ => false
  | tuple items, w =>
    match w.asTuple? with
    | some items' => sameKeys items items'
    | none => false
  | object _ _ _ (some (tuple items)), w =>
    match w.asTuple? with
    | some items' => sameKeys items items'
    | none => false
  | set _ items, w =>
    match w with
    | set _ items' => items.length = items'.length && allAmong items items'
    | _ => false
  | bytes _ octets, w =>
    match w with
    | bytes _ octets' => octets = octets'
    | _ => false
  | range a b c, w =>
    match w with
    | range a' b' c' => sameRange a b c a' b' c'
    | _ => false
  | shape s, w =>
    match w with
    | shape t => s = t
    | _ => false
  | v, w =>
    match v.quantity?, w.quantity?, v.asText?, w.asText? with
    | some q, some q', _, _ => q.isSame q'
    | none, none, some s, some t => s = t
    | none, none, none, none =>
      match v, w with
      | complex a b, complex c d => a.numEq c && b.numEq d
      | function c s, function c' s' => c = c' && s = s'
      | classObject c m, classObject c' m' => c = c' && m = m'
      | builtin c s, builtin c' s' => c = c' && s = s'
      | object c s (some p) _, object c' s' (some p') _ => c = c' && s = s' && p = p'
      | _, _ => false
    | _, _, _, _ => false

/-- Whether the items of two tuples are the same keys. -/
def sameKeys : List Value → List Value → Bool
  | [], [] => true
  | v :: vs, w :: ws => sameKey v w && sameKeys vs ws
  | _, _ => false

/-- Whether all items of a set are among those of another. -/
def allAmong : List Value → List Value → Bool
  | [], _ => true
  | v :: vs, ws => ws.any (fun w => sameKey v w) && allAmong vs ws

end

/-- A dictionary from entries that are added in order. -/
def ofEntries (entries : List (Value × Value)) : Value :=
  dictionary (Entries.collapse sameKey entries)

/-- The value of a text key in a dictionary. -/
def lookup? (entries : List (Value × Value)) (key : Text) : Option Value :=
  Entries.first? sameKey (text key) entries

end Value

end ShapeInference
