import ShapeInference.Yaml.Document
import ShapeInference.Yaml.Grammar
import ShapeInference.Yaml.Scalar

/-!
# Assembly (`safe_load`)

A document is put together from its nodes. Every node becomes one part, however many nodes hold it.
A container is empty at first and waits for its content: those of one level of nesting are filled
before those of the next, in the order in which they were met. What is wrong first in this order
counts.

- `Yaml.Assembly`: the nodes, and how far the document has been put together;
- `Yaml.Assemble.flatten`: a mapping takes over the entries of other mappings, for good;
- `Yaml.Assemble.item`: the part that a node becomes;
- `Yaml.Assemble.fill`: the content of a container that waits for it;
- `Yaml.Document.ofGraph`: the document that nodes make;
- `Yaml.Document.ofBytes`: the document in a file.
-/

namespace ShapeInference

namespace Yaml

/-- The entries of a mapping by the numbers of their nodes. -/
abbrev NodeEntries := List (Nat × Nat)

/-- How far a document has been put together: its nodes, the parts that they became, the containers,
those that wait for their content, each by the numbers of its node and of the container, the last
one first, and the number of entries that take over those of other mappings. -/
structure Assembly where
  nodes : Array Node
  items : Array (Option Item)
  containers : Array Container
  waiting : List (Nat × Nat)
  merges : Nat

namespace Assembly

/-- The node with a number. -/
def node (a : Assembly) (number : Nat) : Node :=
  a.nodes[number]?.getD (.absent ⟨0, 0⟩)

/-- The entries of a node, if it is a mapping. -/
def entries (a : Assembly) (number : Nat) : NodeEntries :=
  match (a.node number).content with
  | .mapping entries => entries
  | _ => []

/-- Whether a node has a tag. -/
def hasTag (a : Assembly) (tag : Tag) (number : Nat) : Bool :=
  (a.node number).tag = tag

/-- The number of entries that take over those of other mappings. -/
def mergeCount (a : Assembly) : Nat :=
  (List.range a.nodes.size).foldl (fun n number =>
    n + ((a.entries number).filter fun e => a.hasTag .merge e.1).length) 0

/-- Before anything of a document is put together. -/
def ofGraph (g : Graph) : Assembly :=
  let a : Assembly := ⟨g.nodes, Array.replicate g.nodes.size none, #[], [], 0⟩
  { a with merges := a.mergeCount }

end Assembly

/-- A step of putting a document together. -/
abbrev Assemble := StateT Assembly (Except Failure)

namespace Assemble

/-- The node with a number. -/
def node (number : Nat) : Assemble Node := do
  return (← get).node number

/-- The failure for a node that should be something else. -/
def mismatch (context : Option (Text × Mark)) (expected : Text) (n : Node) : Failure :=
  .content ⟨context.map (·.1), context.map (·.2),
    ("expected " : Text) ++ expected ++ (", but found " : Text) ++ n.label, n.start⟩

/-- Gives a mapping other entries. -/
def setEntries (number : Nat) (entries : NodeEntries) : Assemble Unit :=
  modify fun a =>
    { a with nodes := a.nodes.modify number fun n => { n with content := .mapping entries } }

/-- Makes a text of a key that stands for a mapping. -/
def makePlain (number : Nat) : Assemble Unit := do
  if (← get).hasTag .value number then
    modify fun a => { a with nodes := a.nodes.modify number fun n => { n with tag := .text } }

/-- What was being read when a mapping at a place takes over entries. -/
def mappingContext (m : Mark) : Option (Text × Mark) :=
  some ("while constructing a mapping", m)

/-- The entries that a mapping at a place takes over from a node: a mapping, or a sequence of them,
the last one first. `flatten` says how mappings take over entries themselves, which they do before.
-/
def entriesFrom (flatten : Nat → Assemble Unit) (m : Mark) (source : Nat) :
    Assemble NodeEntries := do
  let n ← node source
  match n.content with
  | .mapping _ =>
    flatten source
    return (← get).entries source
  | .sequence items =>
    let each ← items.mapM fun item => do
      let n ← node item
      match n.content with
      | .mapping _ =>
        flatten item
        return (← get).entries item
      | _ => throw (mismatch (mappingContext m) "a mapping for merging" n)
    return each.reverse.flatten
  | .scalar _ =>
    throw (mismatch (mappingContext m) "a mapping or list of mappings for merging" n)

/-- Puts entries before those of a mapping. -/
def prepend (number : Nat) (taken : NodeEntries) : Assemble Unit := do
  if !taken.isEmpty then setEntries number (taken ++ (← get).entries number)

/-- The entries that a mapping takes over, after others that it took over already, for its entries
from a position on. What asks for them is removed, which happens `fuel` times at most. Meanwhile the
mapping may be flattened from elsewhere, if it takes over its own entries. -/
def takeOver (number position : Nat) (taken : NodeEntries) : Nat → Assemble NodeEntries
  | 0 => return taken
  | fuel + 1 => do
    let entries := (← get).entries number
    let a ← get
    let own := (entries.drop position).takeWhile fun e => !a.hasTag .merge e.1
    own.forM fun e => makePlain e.1
    let next := position + own.length
    match entries[next]? with
    | none => return taken
    | some (_, source) =>
      setEntries number (entries.eraseIdx next)
      let flatten (other : Nat) : Assemble Unit := do prepend other (← takeOver other 0 [] fuel)
      let more ← entriesFrom flatten (← node number).start source
      takeOver number next (taken ++ more) fuel

/-- Lets a mapping take over the entries that it asks for, and makes texts of its keys that stand
for it. -/
def flatten (number : Nat) : Assemble Unit := do
  prepend number (← takeOver number 0 [] ((← get).merges + 1))

/-- The text of a scalar. A mapping may have one too: under the key that stands for itself, and so
on for at most `fuel` nodes. -/
def textWithin (number : Nat) : Nat → Assemble Text
  | 0 => throw (.scalar .endless)
  | fuel + 1 => do
    let a ← get
    match (a.node number).content with
    | .scalar t => return t
    | _ =>
      match (a.entries number).find? fun e => a.hasTag .value e.1 with
      | some (_, value) => textWithin value fuel
      | none => throw (mismatch none "a scalar node" (a.node number))

/-- The text of a node. -/
def text (number : Nat) : Assemble Text := do
  textWithin number ((← get).nodes.size + 1)

/-- The atom that the text of a node writes. -/
def atom (number : Nat) (read : Text → Except Fault Atom) : Assemble Item := do
  match read (← text number) with
  | .ok a => return .atom a
  | .error f => throw (.scalar f)

/-- A date or time. A mapping is none, even if it has a text. -/
def time (number : Nat) : Assemble Item := do
  let t ← text number
  match (← node number).content with
  | .mapping _ => throw (.scalar .notText)
  | _ => atom number fun _ => (Scalar.timestamp t).map .time

/-- Bytes in base 64. -/
def binary (number : Nat) : Assemble Item := do
  match Scalar.binary (← text number) with
  | .ok octets => return .atom (.bytes octets)
  | .error problem => throw (.content ⟨none, none, problem, (← node number).start⟩)

/-- A container without content, which waits for that of a node. -/
def container (number : Nat) (c : Container) : Assemble Item := do
  let place := (← get).containers.size
  modify fun a =>
    { a with containers := a.containers.push c, waiting := (number, place) :: a.waiting }
  return .container place

/-- The part that a node becomes by its tag. -/
def build (number : Nat) : Assemble Item := do
  let n ← node number
  match n.tag with
  | .null => atom number fun _ => .ok .null
  | .bool => atom number fun t => (Scalar.bool t).map .bool
  | .int => atom number fun t => (Scalar.int t).map .int
  | .float => atom number Scalar.float
  | .timestamp => time number
  | .binary => binary number
  | .text => atom number fun t => .ok (.text t)
  | .sequence => container number (.list [])
  | .mapping => container number (.dictionary [])
  | .set => container number (.set [])
  | .orderedMap | .pairs => container number (.pairs [])
  | .merge | .value | .mark | .other _ =>
    throw (.content ⟨none, none,
      ("could not determine a constructor for the tag " : Text) ++ n.tag.name.quoted, n.start⟩)

/-- The part that a node becomes; it stays the same one. -/
def item (number : Nat) : Assemble Item := do
  match (← get).items[number]? with
  | some (some i) => return i
  | _ =>
    let i ← build number
    modify fun a => { a with items := a.items.setIfInBounds number (some i) }
    return i

/-- Whether the keys of two nodes are one. -/
def sameKey (k l : Nat × Atom) : Bool :=
  k.1 = l.1 || k.2.isSame l.2

/-- The entries of a mapping after more of them, where each key comes with the number of its node.
-/
def dictionary (m : Mark) (done : List ((Nat × Atom) × Item)) :
    NodeEntries → Assemble (List (Atom × Item))
  | [] => return done.map fun e => (e.1.2, e.2)
  | (key, value) :: rest => do
    match ← item key with
    | .container _ =>
      throw (.content ⟨some "while constructing a mapping", some m, "found unhashable key",
        (← node key).start⟩)
    | .atom a =>
      let i ← item value
      dictionary m (Entries.insert sameKey (key, a) i done) rest

/-- The entries of a node, which has to be a mapping. -/
def entries (number : Nat) : Assemble (List (Atom × Item)) := do
  let n ← node number
  match n.content with
  | .mapping _ =>
    flatten number
    dictionary n.start [] ((← get).entries number)
  | _ => throw (mismatch none "a mapping node" n)

/-- The items of a node, which has to be a sequence. -/
def items (number : Nat) : Assemble (List Item) := do
  let n ← node number
  match n.content with
  | .sequence items => items.mapM item
  | _ => throw (mismatch none "a sequence node" n)

/-- What is being read, for a tag of pairs. -/
def pairContext (tag : Tag) : Text :=
  if tag = .orderedMap then "while constructing an ordered map" else "while constructing pairs"

/-- The pair of a node, which has to be a mapping with a single entry. -/
def pair (context : Text) (m : Mark) (number : Nat) : Assemble (Item × Item) := do
  let n ← node number
  match n.content with
  | .mapping [(key, value)] => return (← item key, ← item value)
  | .mapping entries =>
    throw (.content ⟨some context, some m,
      ("expected a single mapping item, but found " : Text) ++ Text.ofNat entries.length
        ++ (" items" : Text), n.start⟩)
  | _ => throw (mismatch (some (context, m)) "a mapping of length 1" n)

/-- The pairs of a node, which has to be a sequence. -/
def pairs (number : Nat) : Assemble (List (Item × Item)) := do
  let n ← node number
  let context := pairContext n.tag
  match n.content with
  | .sequence items => items.mapM (pair context n.start)
  | _ => throw (mismatch (some (context, n.start)) "a sequence" n)

/-- The content of a container, which a node gives. -/
def content (number : Nat) : Container → Assemble Container
  | .list _ => return .list (← items number)
  | .pairs _ => return .pairs (← pairs number)
  | .dictionary _ => return .dictionary (← entries number)
  | .set _ => return .set ((← entries number).map (·.1))

/-- Gives a container that waits for it its content. -/
def fill (number place : Nat) : Assemble Unit := do
  match (← get).containers[place]? with
  | none => return ()
  | some c =>
    let filled ← content number c
    modify fun a => { a with containers := a.containers.setIfInBounds place filled }

/-- Fills the containers that wait, and then those that wait because of that, `fuel` times. -/
def fillAll : Nat → Assemble Unit
  | 0 => return ()
  | fuel + 1 => do
    let waiting := (← get).waiting
    if !waiting.isEmpty then
      modify fun a => { a with waiting := [] }
      waiting.reverse.forM fun (number, place) => fill number place
      fillAll fuel

/-- The part that the whole document is. Every node waits once at most. -/
def document (root : Nat) : Assemble Item := do
  let i ← item root
  fillAll ((← get).nodes.size + 1)
  return i

end Assemble

/-- The document that nodes make. -/
def Document.ofGraph (g : Graph) : Except Failure Document :=
  (Assemble.document g.root (.ofGraph g)).map fun (root, a) => ⟨a.containers, root⟩

/-- The document in the bytes of a file; a file without a node says nothing. -/
def Document.ofBytes (bytes : List UInt8) : Except Failure Document :=
  match Graph.ofTokens (TokenStream.ofSource (Source.ofBytes bytes)) with
  | .error f => .error f
  | .ok none => .ok .empty
  | .ok (some g) => ofGraph g

end Yaml

end ShapeInference
