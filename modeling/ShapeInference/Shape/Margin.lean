import ShapeInference.Shape.Basic

/-!
# Margins

A shape that is written with an indent has a margin before every member of an object. Its width is
the indent as often as the member is nested. `_render_object` makes the margins of an object once
its members are written.

- `Shape.margins`: the widths of all margins of a shape.
-/

namespace ShapeInference

namespace Shape

mutual

/-- The widths of the margins in a shape at a nesting level, once for each object with members;
those inside an object come before its own. -/
def marginsAt (indent level : Nat) : Shape → List Nat
  | node _ _ e m =>
    (match e with
      | none => []
      | some x => marginsAt indent level x)
    ++ (match m with
      | none => []
      | some ms =>
        memberMargins indent level ms ++ if ms.isEmpty then [] else [indent * (level + 1)])

/-- The widths of the margins inside the members of an object at a nesting level. -/
def memberMargins (indent level : Nat) : List (Text × Shape) → List Nat
  | [] => []
  | (_, s) :: ms => marginsAt indent (level + 1) s ++ memberMargins indent level ms

end

/-- The widths of the margins in a shape. -/
def margins (s : Shape) (indent : Nat) : List Nat :=
  s.marginsAt indent 0

end Shape

end ShapeInference
