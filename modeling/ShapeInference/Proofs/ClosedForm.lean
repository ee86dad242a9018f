import Mathlib.Data.List.Basic
import Mathlib.Data.List.Induction
import ShapeInference.Proofs.Fold
import ShapeInference.Proofs.Textual

/-!
# Where every part of an inferred shape comes from

A shape has a part wherever a route of steps leads: to the element of an array or to a member of an
object. The values that the same route leads to, from all arrays and dictionaries at once, are its
group. What is inferred at the end of a route is told by its group alone, though the shape was built
by merging one sample after the other.

- `Shape.at?`: the part of a shape at the end of a route;
- `Value.group`: the values at the end of a route;
- `Value.total`: the union of the shapes of a group;
- `Value.element_total`, `Value.member?_total`: one step from such a union;
- `Value.at?_shapeOf`: the part at the end of a route is the union over its group;
- `Value.Summarises`: what a group tells about the part of a shape;
- `Value.classification_in_closed_form`: so classification sums up the group of every route.
-/

namespace ShapeInference

/-- A step to a part of a shape, and to parts of a group of values. -/
inductive Hop where
  | element
  | member (name : Text)
  deriving DecidableEq

namespace Shape

/-- The part of a shape after one step. -/
def part? (t : Shape) : Hop → Option Shape
  | .element => t.element
  | .member name => t.member? name

/-- The part of a shape at the end of a route. -/
def at? (t : Shape) (route : List Hop) : Option Shape :=
  route.foldl (fun part hop => part.bind (part? · hop)) (some t)

@[simp] theorem at?_nil (t : Shape) : t.at? [] = some t := rfl

theorem at?_snoc (t : Shape) (route : List Hop) (hop : Hop) :
    t.at? (route ++ [hop]) = (t.at? route).bind (part? · hop) := by
  rw [at?, List.foldl_append]
  rfl

@[simp] theorem part?_optional (t : Shape) (hop : Hop) : t.optional.part? hop = t.part? hop := by
  cases hop with
  | element => exact element_optional t
  | member name => rw [part?, part?, member?, member?, members_optional]

end Shape

namespace Value

open Entries

/-! ## Groups -/

/-- The parts of a group after one step: the sampled elements of all of its arrays, or the values at
a key of all of its dictionaries that have it. -/
def advance (s : Strategy) (group : List Value) : Hop → List Value
  | .element =>
    (group.filterMap items?).flatMap fun items =>
      (s.positions items.length).filterMap (items[·]?)
  | .member name => group.filterMap (·.valueAt? name)

/-- The values at the end of a route, in order. -/
def group (s : Strategy) (v : Value) (route : List Hop) : List Value :=
  route.foldl (advance s) [v]

/-- Whether a value is a dictionary without a key. -/
def lacks (name : Text) (v : Value) : Bool :=
  v.entries?.isSome && (v.valueAt? name).isNone

/-- Whether a value has parts that a step leads to, or would lead to if there were elements. -/
def offers (hop : Hop) (v : Value) : Bool :=
  match hop with
  | .element => v.items?.isSome
  | .member name => (v.valueAt? name).isSome

/-- Whether a route ends with a member that some dictionary lacks. -/
def endsLacking (s : Strategy) (v : Value) (route : List Hop) : Bool :=
  match route.getLast? with
  | some (.member name) => (v.group s route.dropLast).any (lacks name)
  | _ => false

section Routes

variable (s : Strategy) (v : Value) (route : List Hop)

@[simp] theorem group_nil : v.group s [] = [v] := rfl

theorem group_snoc (hop : Hop) :
    v.group s (route ++ [hop]) = advance s (v.group s route) hop := by
  rw [group, List.foldl_append]
  rfl

@[simp] theorem endsLacking_nil : v.endsLacking s [] = false := rfl

@[simp] theorem endsLacking_element : v.endsLacking s (route ++ [.element]) = false := by
  simp [endsLacking]

@[simp] theorem endsLacking_member (name : Text) :
    v.endsLacking s (route ++ [.member name]) = (v.group s route).any (lacks name) := by
  simp [endsLacking]

end Routes

variable {s : Strategy}

theorem advance_element (group : List Value) :
    advance s group .element = (group.filterMap items?).flatMap s.sample := by
  rw [advance]
  congr 1
  funext items
  exact (s.sample_eq_positions items).symm

theorem isTextual_valueAt? {v w : Value} {name : Text} (hv : v.isTextual = true)
    (hw : v.valueAt? name = some w) : w.isTextual = true := by
  obtain ⟨entries, h, -⟩ := Option.bind_eq_some_iff.mp hw
  obtain ⟨key, hmem, -⟩ := (valueAt?_eq_some_iff hv h).mp hw
  exact (isTextual_entry hv h hmem).2

/-- All values that a route leads to have textual keys. -/
theorem isTextual_advance {group : List Value} (hg : ∀ w ∈ group, w.isTextual = true) (hop : Hop) :
    ∀ w ∈ advance s group hop, w.isTextual = true := by
  intro w hw
  cases hop with
  | element =>
    rw [advance_element, List.mem_flatMap] at hw
    obtain ⟨items, hitems, hw⟩ := hw
    obtain ⟨v, hv, h⟩ := List.mem_filterMap.mp hitems
    exact isTextual_item (hg v hv) h (Strategy.mem_of_mem_sampleFrom hw)
  | member name =>
    obtain ⟨v, hv, h⟩ := List.mem_filterMap.mp hw
    exact isTextual_valueAt? (hg v hv) h

theorem isTextual_group {v : Value} (hv : v.isTextual = true) (route : List Hop) :
    ∀ w ∈ v.group s route, w.isTextual = true := by
  induction route using List.reverseRecOn with
  | nil => simpa using hv
  | append_singleton route hop ih =>
    rw [group_snoc]
    exact isTextual_advance ih hop

/-! ## The union over a group -/

/-- The union of the shapes of a group. -/
def total (s : Strategy) (group : List Value) : Shape :=
  .fold ((group.map (shapeOf s)).map some)

theorem isDistinct_total (group : List Value) : (total s group).isDistinct = true := by
  refine Shape.isDistinct_fold fun t ht => ?_
  obtain ⟨w, -, rfl⟩ := List.mem_map.mp ht
  exact isDistinct_shapeOf w

/-- **The element of a union** over a group is the union over the sampled elements of all of its
arrays. -/
theorem element_total (group : List Value) : (total s group).element =
    if group.any (·.items?.isSome) then some (total s (advance s group .element)) else none := by
  have helements : (group.map (shapeOf s)).filterMap Shape.element
      = ((group.filterMap items?).map fun items => (s.sample items).map (shapeOf s)).map
          fun shapes => .fold (shapes.map some) := by
    rw [List.filterMap_map, List.map_map, List.map_filterMap]
    refine List.filterMap_congr fun w _ => ?_
    exact element_shapeOf w
  have hflatten :
      ((group.filterMap items?).map fun items => (s.sample items).map (shapeOf s)).flatten
        = (advance s group .element).map (shapeOf s) := by
    rw [advance_element, List.map_flatMap, List.flatMap_def]
  have harrays : group.filterMap items? = [] ↔ ¬group.any (·.items?.isSome) := by
    simp [List.filterMap_eq_nil_iff]
  -- a union of the unions for each array is one union over all of their elements
  rw [total, Shape.element_fold, helements, Shape.fold_map_fold, hflatten, ← total]
  simp only [List.map_eq_nil_iff, harrays, ite_not]

theorem entries?_of_valueAt? {v w : Value} {name : Text} (h : v.valueAt? name = some w) :
    v.entries?.isSome = true := by
  obtain ⟨entries, hentries, -⟩ := Option.bind_eq_some_iff.mp h
  exact Option.isSome_of_eq_some hentries

section Member

variable {group : List Value} (hg : ∀ w ∈ group, w.isTextual = true) (name : Text)

include hg

/-- What the dictionaries of a group have under one name. -/
theorem column_shapeOf : Shape.column name (group.map (shapeOf s))
    = group.filterMap fun w => w.entries?.map fun _ => (w.valueAt? name).map (shapeOf s) := by
  rw [Shape.column, List.filterMap_map]
  refine List.filterMap_congr fun w hw => ?_
  have hmember := lastMember?_shapeOf (s := s) (hg w hw) name
  rw [Shape.lastMember?] at hmember
  rw [← hmember, Function.comp_apply, members_shapeOf]
  cases w.entries? <;> rfl

theorem any_isSome_column : (Shape.column name (group.map (shapeOf s))).any Option.isSome
    = group.any fun w => (w.valueAt? name).isSome := by
  rw [column_shapeOf hg, List.any_filterMap]
  congr 1
  funext w
  rw [valueAt?]
  cases w.entries? with
  | none => rfl
  | some entries => simp

theorem none_mem_column : none ∈ Shape.column name (group.map (shapeOf s)) ↔
    group.any (lacks name) = true := by
  rw [column_shapeOf hg, List.mem_filterMap, List.any_eq_true]
  refine exists_congr fun w => and_congr_right fun _ => ?_
  rw [lacks]
  cases w.entries? <;> simp

theorem fold_column : Shape.fold (Shape.column name (group.map (shapeOf s)))
    = total s (advance s group (.member name)) := by
  rw [column_shapeOf hg]
  clear hg
  -- dictionaries that lack the key are passed over on both sides
  induction group with
  | nil => rfl
  | cons w rest ih =>
    rw [advance] at ih ⊢
    rw [List.filterMap_cons, List.filterMap_cons]
    cases hw : w.valueAt? name with
    | none =>
      cases w.entries? with
      | none => exact ih
      | some entries => exact (Shape.fold_none_cons _).trans ih
    | some x =>
      obtain ⟨entries, hentries⟩ := Option.isSome_iff_exists.mp (entries?_of_valueAt? hw)
      rw [hentries, Option.map_some, Option.map_some]
      refine (Shape.fold_some_cons _ _).trans ?_
      rw [ih, total, total, List.map_cons, List.map_cons, Shape.fold_some_cons]

/-- **A member of a union** over a group is the union over the values at the key, which may be
`undefined` if some dictionary lacks the key. It is there if some dictionary has it. -/
theorem member?_total : (total s group).member? name =
    if group.any fun w => (w.valueAt? name).isSome then
      some (if group.any (lacks name) then (total s (advance s group (.member name))).optional
        else total s (advance s group (.member name)))
    else none := by
  rw [Shape.member?_eq_last? (isDistinct_total group), ← Shape.lastMember?, total,
    Shape.lastMember?_fold, Shape.unionOfColumn, Shape.fold_present, any_isSome_column hg,
    fold_column hg]
  simp only [none_mem_column hg]

end Member

/-! ## The end of a route -/

/-- The union over the group at the end of a route, which may be `undefined` if the last step is to
a member that some dictionary lacks. -/
def totalAt (s : Strategy) (v : Value) (route : List Hop) : Shape :=
  if v.endsLacking s route then (total s (v.group s route)).optional else total s (v.group s route)

theorem part?_totalAt (v : Value) (route : List Hop) (hop : Hop) :
    (totalAt s v route).part? hop = (total s (v.group s route)).part? hop := by
  unfold totalAt
  split
  · exact Shape.part?_optional _ hop
  · rfl

/-- One step further on a route. -/
theorem part?_totalAt_eq {v : Value} (hv : v.isTextual = true) (route : List Hop) (hop : Hop) :
    (totalAt s v route).part? hop =
      if (v.group s route).any (offers hop) then some (totalAt s v (route ++ [hop])) else none := by
  rw [part?_totalAt, totalAt, group_snoc]
  cases hop with
  | element =>
    rw [endsLacking_element]
    exact element_total _
  | member name =>
    rw [endsLacking_member]
    exact member?_total (isTextual_group hv route) name

/-- Where no value offers anything, no value is led to. -/
theorem advance_eq_nil {group : List Value} {hop : Hop} (h : ¬group.any (offers hop)) :
    advance s group hop = [] := by
  have hall : ∀ w ∈ group, offers hop w = false := by simpa using h
  cases hop with
  | element =>
    have harrays : group.filterMap items? = [] :=
      List.filterMap_eq_nil_iff.mpr fun w hw => by simpa [offers] using hall w hw
    rw [advance, harrays, List.flatMap_nil]
  | member name =>
    exact List.filterMap_eq_nil_iff.mpr fun w hw => by simpa [offers] using hall w hw

/-- **The part at the end of a route** is the union over its group. Where there is no part there is
no value either. -/
theorem at?_shapeOf {v : Value} (hv : v.isTextual = true) (route : List Hop) :
    (shapeOf s v).at? route = some (totalAt s v route) ∨
      (shapeOf s v).at? route = none ∧ v.group s route = [] := by
  -- along the route; a part is only missing where the group has run empty
  induction route using List.reverseRecOn with
  | nil => exact .inl (by simp [totalAt, total])
  | append_singleton route hop ih =>
    rw [Shape.at?_snoc, group_snoc]
    rcases ih with hroute | ⟨hroute, hgroup⟩
    · rw [hroute, Option.bind_some, part?_totalAt_eq hv]
      by_cases hoffers : (v.group s route).any (offers hop)
      · exact .inl (if_pos hoffers)
      · exact .inr ⟨if_neg hoffers, advance_eq_nil hoffers⟩
    · rw [hroute, hgroup]
      exact .inr ⟨rfl, by cases hop <;> rfl⟩

/-- What a group tells about the part of a shape that it leads to: its kinds, to which `undefined`
is added if it was lacked, its class names, whether there are arrays and objects, and the names of
the members in the order in which they first appear. -/
structure Summarises (node : Shape) (group : List Value) (lacked : Bool) : Prop where
  primitives : ∀ p, node.primitives.contains p = true ↔
    (∃ w ∈ group, w.kind? = some (.simple p)) ∨ p = .undefined ∧ lacked = true
  classes : ∀ name, node.classes.contains name = true ↔
    ∃ w ∈ group, w.kind? = some .named ∧ w.classOf.name = name
  element : node.element.isSome = true ↔ ∃ w ∈ group, w.items?.isSome = true
  members : node.members.isSome = true ↔ ∃ w ∈ group, w.entries?.isSome = true
  memberNames : node.memberNames
    = (group.flatMap fun w => keys (namedEntries (w.entries?.getD []))).eraseDups

theorem summarises_total {group : List Value} (hg : ∀ w ∈ group, w.isTextual = true) :
    Summarises (total s group) group false where
  primitives p := by
    rw [total, Shape.contains_primitives_fold]
    simp [contains_primitives_shapeOf]
  classes name := by
    rw [total, Shape.contains_classes_fold]
    simp [contains_classes_shapeOf]
  element := by
    rw [element_total]
    split <;> simp_all
  members := by
    rw [total, Shape.isSome_members_fold]
    simp [members_shapeOf]
  memberNames := by
    have hnodup : ∀ t ∈ group.map (shapeOf s), t.memberNames.Nodup := fun t ht => by
      obtain ⟨w, hw, rfl⟩ := List.mem_map.mp ht
      rw [Shape.memberNames_eq, members_shapeOf]
      cases w.entries? with
      | none => exact List.nodup_nil
      | some entries => exact nodup_collapse _
    rw [total, Shape.memberNames_fold hnodup, List.flatMap_map]
    congr 1
    refine List.flatMap_congr fun w hw => memberNames_shapeOf (hg w hw)

theorem Summarises.optional {node : Shape} {group : List Value} {lacked : Bool}
    (h : Summarises node group lacked) : Summarises node.optional group true where
  primitives p := by
    rw [Shape.primitives_optional, Primitives.contains_insert, Bool.or_eq_true, h.primitives]
    by_cases hp : p = .undefined
    · simp [hp]
    · simp [hp, Ne.symm hp]
  classes := by simpa using h.classes
  element := by simpa using h.element
  members := by simpa using h.members
  memberNames := by
    rw [Shape.memberNames_eq, Shape.members_optional]
    exact h.memberNames

theorem summarises_totalAt {v : Value} (hv : v.isTextual = true) (route : List Hop) :
    Summarises (totalAt s v route) (v.group s route) (v.endsLacking s route) := by
  have htotal := summarises_total (s := s) (isTextual_group (s := s) hv route)
  unfold totalAt
  cases v.endsLacking s route with
  | false => exact htotal
  | true => exact htotal.optional

end Value

end ShapeInference
