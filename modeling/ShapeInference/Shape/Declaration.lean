import ShapeInference.Shape.Basic
import ShapeInference.Text.Identifier
import ShapeInference.Text.Literal

/-!
# Declarations (`render`, `declare`)

A shape is written as a union of its alternatives: the array type, the class names, the primitive
kinds, and the object literal, in this order.

- `Declaration.property`: a property name, bare or as a quoted key;
- `Shape.write`: a shape with objects on one line (`indent = 0`) or with each member on a line of
  its own;
- `Declaration.write`: a shape as the declaration of a named type.
-/

namespace ShapeInference

namespace Declaration

/-- The name that a declaration has if none is given (`DEFAULT_TYPE_NAME`). -/
def defaultName : Text := "MyCustomType"

/-- A property name: an identifier stands bare, another name is a quoted key in brackets. A key with
half a surrogate pair is written in ASCII (`render_property`). -/
def property (name : Text) : Text :=
  if name.isIdentifier then name
  else ("[" : Text) ++ Literal.write (name.any CodePoint.isSurrogate) name ++ ("]" : Text)

/-- One member of an object. -/
def field (name written : Text) : Text :=
  property name ++ (": " : Text) ++ written ++ (";" : Text)

/-- The alternatives of a union. -/
def union (alternatives : List Text) : Text :=
  if alternatives.isEmpty then "unknown" else Text.join " | " alternatives

/-- An object literal with its fields, at a nesting level (`_render_object`). -/
def object (indent level : Nat) (fields : List Text) : Text :=
  if indent = 0 then ("\x7b" : Text) ++ fields.flatten ++ ("\x7d" : Text)
  else if fields.isEmpty then "\x7b\x7d"
  else
    ("\x7b\n" : Text)
      ++ Text.join "\n" (fields.map (Text.spaces (indent * (level + 1)) ++ ·))
      ++ ("\n" : Text) ++ Text.spaces (indent * level) ++ ("\x7d" : Text)

end Declaration

namespace Shape

open Declaration

mutual

/-- A shape at a nesting level (`_render`). -/
def writeAt (indent level : Nat) : Shape → Text
  | node p c e m =>
    union
      -- array, classes, primitives, object
      ((match e with
        | none => []
        | some x => [("Array<" : Text) ++ writeAt indent level x ++ (">" : Text)])
      ++ c.toList
      ++ p.toList.map Primitive.name
      ++ (match m with
        | none => []
        | some ms => [object indent level (writeFields indent level ms)]))

/-- The fields of an object at a nesting level. -/
def writeFields (indent level : Nat) : List (Text × Shape) → List Text
  | [] => []
  | (name, s) :: ms => field name (writeAt indent (level + 1) s) :: writeFields indent level ms

end

/-- A shape as a type expression, with a number of spaces for each nesting level, or on one line
when it is zero: what `render` returns. -/
def write (s : Shape) (indent : Nat) : Text :=
  s.writeAt indent 0

end Shape

/-- A shape as the declaration of a named type: what `declare` returns. -/
def Declaration.write (s : Shape) (name : Text) (indent : Nat) : Text :=
  ("type " : Text) ++ name ++ (" = " : Text) ++ s.write indent ++ (";" : Text)

end ShapeInference
