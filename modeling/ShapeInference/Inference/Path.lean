import ShapeInference.Text.Identifier
import ShapeInference.Text.Literal

/-!
# Paths (`_member_path`)

A path says where in a value something was found: a list of steps from the outermost value inwards.

- `Step`: one step, to a member or to an element;
- `Path.write`: a path as a text, such as `$.items[0]`.
-/

namespace ShapeInference

/-- A step from a value to a part of it. -/
inductive Step where
  | member (name : Text)
  | element (index : Nat)
  deriving DecidableEq, Repr

/-- A step as a text: an identifier after a point, another name as a literal in brackets
(`_member_path`), or an index in brackets. -/
def Step.write : Step → Text
  | .member name =>
    if name.isIdentifier then '.' :: name
    else ("[" : Text) ++ Literal.write true name ++ ("]" : Text)
  | .element index => ("[" : Text) ++ Text.ofNat index ++ ("]" : Text)

/-- The steps from the outermost value inwards. -/
abbrev Path := List Step

/-- A path as a text, where the outermost value is a dollar sign. -/
def Path.write (p : Path) : Text :=
  '$' :: p.flatMap Step.write

end ShapeInference
