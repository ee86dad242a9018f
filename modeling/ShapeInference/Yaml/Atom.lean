import ShapeInference.Yaml.Timestamp

/-!
# Atoms

- `Yaml.Atom`: the values of scalars, which can be keys of dictionaries;
- `Yaml.Atom.isSame`: whether two atoms are one as keys;
- `Yaml.Atom.value`: an atom as a value.
-/

namespace ShapeInference

namespace Yaml

/-- The value of a scalar. -/
inductive Atom where
  | null
  | bool (b : Bool)
  | int (n : Int)
  | float (x : Binary64)
  /-- What is not a number, if a document calls it so by its name: there is only one of it. -/
  | notNumber
  | text (t : Text)
  | bytes (octets : List UInt8)
  | time (s : Timestamp)
  deriving DecidableEq, Repr

namespace Atom

/-- The finite number that an atom is, as a fraction. -/
def rational? : Atom → Option (Int × Nat)
  | bool b => some (if b then 1 else 0, 1)
  | int n => some (n, 1)
  | float x => x.toRational?
  | _ => none

/-- Whether two atoms are one as keys: numbers by their value, times by their instant. A number that
is none is only the same as itself, which its name tells. -/
def isSame (a b : Atom) : Bool :=
  match a, b with
  | text s, text t => s = t
  | time s, time t => s.isSame t
  | a, b =>
    match a.rational?, b.rational? with
    | some (n, d), some (n', d') => n * d' = n' * d
    | none, none =>
      match a, b with
      | float x, float y => x = y && !x.isNaN
      | a, b => a = b
    | _, _ => false

/-- An atom as a value. -/
def value : Atom → Value
  | null => .null
  | bool b => .bool b
  | int n => .int n
  | float x => .float x
  | notNumber => .float .nan
  | text t => .text t
  | bytes octets => .bytes false octets
  | time s => s.value

end Atom

end Yaml

end ShapeInference
