import ShapeInference.Value.Set
import ShapeInference.Yaml.Atom

/-!
# Documents

What a document says is an atom or a container of atoms and containers. Containers are numbered,
since one may be in several others, and even inside itself.

- `Yaml.Item`, `Yaml.Container`: the parts of a document;
- `Yaml.Document`: a document;
- `Yaml.Document.find?`: the part that a list of keys leads to;
- `Yaml.Document.value`: a part as a value.
-/

namespace ShapeInference

namespace Yaml

/-- A part of a document: an atom, or a container by its number. -/
inductive Item where
  | atom (a : Atom)
  | container (number : Nat)
  deriving DecidableEq, Repr

/-- A container with what is in it. -/
inductive Container where
  | list (items : List Item)
  | pairs (items : List (Item × Item))
  | dictionary (entries : List (Atom × Item))
  | set (members : List Atom)
  deriving DecidableEq, Repr

/-- The containers of a document by their numbers, and the part that is the whole document. -/
structure Document where
  containers : Array Container
  root : Item
  deriving Repr

/-- What stands for a container inside itself. -/
def Container.shownInside : Container → Value
  | list _ | pairs _ => .builtin "list" "[...]"
  | dictionary _ => .builtin "dict" "\x7b...\x7d"
  | set _ => .builtin "set" "set(...)"

namespace Document

/-- A document that says nothing. -/
def empty : Document := ⟨#[], .atom .null⟩

/-- The entries of a part, if it is a dictionary. -/
def entries? (d : Document) : Item → Option (List (Atom × Item))
  | .atom _ => none
  | .container number =>
    match d.containers[number]? with
    | some (.dictionary entries) => some entries
    | _ => none

/-- The part that a list of keys leads to from another one, one dictionary after the other. -/
def find? (d : Document) : List Text → Item → Option Item
  | [], i => some i
  | key :: keys, i =>
    ((d.entries? i).bind (Entries.first? Atom.isSame (.text key))).bind (d.find? keys)

/-- A part inside containers as a value, of at most `fuel` containers inside one another. -/
def valueInside (d : Document) : Nat → List Nat → Item → Value
  | _, _, .atom a => a.value
  | 0, _, .container _ => .null
  | fuel + 1, around, .container number =>
    match d.containers[number]? with
    | none => .null
    | some c =>
      let inside := d.valueInside fuel (number :: around)
      if around.contains number then c.shownInside
      else
        match c with
        | .list items => .list (items.map inside)
        | .pairs items => .list (items.map fun pair => .tuple [inside pair.1, inside pair.2])
        | .dictionary entries => .dictionary (entries.map fun e => (e.1.value, inside e.2))
        | .set members => .setOf false true (members.map Atom.value)

/-- A part as a value. A container that comes up again inside itself is not gone into once more. -/
def value (d : Document) (i : Item) : Value :=
  d.valueInside (d.containers.size + 1) [] i

end Document

end Yaml

end ShapeInference
