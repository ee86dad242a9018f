import ShapeInference.Shape.Basic

/-!
# Merging shapes (`merge`, `merge_object_members`, `fold`)

Two rules are kept apart. At the top, in array elements and in folds, an absent shape is an
identity. In objects, a member that only one side has is merged with `undefined`, which records that
some sample lacked it.

- `Shape.optional`: a shape for a member that some sample lacks;
- `Shape.merge`: the union of two shapes;
- `Shape.merge?`: the union of two shapes that may be absent;
- `Shape.mergeMembers`: the union of the members of two objects: the left ones in order, then those
  that only the right one has;
- `Shape.fold`: the union of a list of shapes.
-/

namespace ShapeInference

namespace Shape

/-- A shape with the alternative `undefined` added. -/
def optional : Shape → Shape
  | node p c e m => node (p.insert .undefined) c e m

/-- The members that only the right object has. -/
def onlyRight (ms ns : List (Text × Shape)) : List (Text × Shape) :=
  (ns.filter fun n => !ms.any fun m => m.1 = n.1).map fun n => (n.1, n.2.optional)

mutual

/-- The union of two shapes (`merge`, where both are there). -/
def merge : Shape → Shape → Shape
  | node p c e m, t =>
    node (p.union t.primitives) (c.union t.classes)
      (match e with
        | none => t.element
        | some x =>
          match t.element with
          | none => some x
          | some y => some (merge x y))
      (match m with
        | none => t.members
        | some ms =>
          match t.members with
          | none => some ms
          | some ns => some (Entries.collapse (· = ·) (mergeLeft ms ns ++ onlyRight ms ns)))

/-- The members of the left object, each merged with the last right member of its name. -/
def mergeLeft : List (Text × Shape) → List (Text × Shape) → List (Text × Shape)
  | [], _ => []
  | (name, s) :: ms, ns =>
    (name,
      match Entries.last? (· = ·) name ns with
      | some t => merge s t
      | none => s.optional) :: mergeLeft ms ns

end

/-- The union of the members of two objects (`merge_object_members`). -/
def mergeMembers (ms ns : List (Text × Shape)) : List (Text × Shape) :=
  Entries.collapse (· = ·) (mergeLeft ms ns ++ onlyRight ms ns)

/-- The union of two shapes that may be absent (`merge`). -/
def merge? : Option Shape → Option Shape → Option Shape
  | none, t => t
  | some s, none => some s
  | some s, some t => some (s.merge t)

/-- The union of a list of shapes that may be absent, from the left, beginning with the shape that
says nothing (`fold`). -/
def fold (shapes : List (Option Shape)) : Shape :=
  shapes.foldl (fun s t => t.elim s s.merge) empty

end Shape

end ShapeInference
