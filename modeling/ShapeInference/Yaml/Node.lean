import ShapeInference.Yaml.Failure
import ShapeInference.Yaml.Tag

/-!
# Nodes

A document is made of nodes: scalars, sequences and mappings. They are numbered, and what is in a
node is given by numbers, so that several nodes may hold one, and a node may even be inside itself.

- `Yaml.Content`: what is in a node;
- `Yaml.Node`: a node;
- `Yaml.Graph`: the nodes of a document.
-/

namespace ShapeInference

namespace Yaml

/-- What is in a node. Other nodes are given by their numbers. -/
inductive Content where
  | scalar (t : Text)
  | sequence (items : List Nat)
  | mapping (entries : List (Nat × Nat))
  deriving DecidableEq, Repr

/-- A node with its tag and the place where it begins. -/
structure Node where
  tag : Tag
  content : Content
  start : Mark
  deriving DecidableEq, Repr

namespace Node

/-- How a message names a node. -/
def label (n : Node) : Text :=
  match n.content with
  | .scalar _ => "scalar"
  | .sequence _ => "sequence"
  | .mapping _ => "mapping"

/-- A scalar that was left out. -/
def absent (m : Mark) : Node :=
  ⟨.ofPlain [], .scalar [], m⟩

end Node

/-- The nodes of a document by their numbers, and the number of the node that is the document. -/
structure Graph where
  nodes : Array Node
  root : Nat
  deriving Repr

end Yaml

end ShapeInference
