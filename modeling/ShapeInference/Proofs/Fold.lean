import ShapeInference.Proofs.Alike
import ShapeInference.Proofs.Distinct

/-!
# Unions, part by part

A union of shapes is a union in each of its parts. Its kinds and classes are those of all shapes,
its element is the union of all elements, and a member is the union over all objects, where an
object that lacks the member counts as `undefined`.

- `Shape.element_fold`: the element of a union;
- `Shape.memberNames_fold`: the names of a union in the order in which they first appear;
- `Shape.lastMember?_fold`: a member of a union;
- `Shape.fold_present`: lacking a member once or several times adds `undefined` once;
- `Shape.members_fold`: all members of a union, in order;
- `Shape.fold_part_by_part`: a union in all of its parts.
-/

namespace ShapeInference

namespace Shape

open Entries

/-! ## Unions of unions -/

/-- A union of unions is one union. -/
theorem fold_map_fold (groups : List (List Shape)) :
    fold ((groups.map fun group => fold (group.map some)).map some)
      = fold (groups.flatten.map some) := by
  induction groups with
  | nil => rfl
  | cons group rest ih =>
    rw [List.map_cons, List.map_cons, fold_some_cons, ih, List.flatten_cons, List.map_append,
      fold_append]

/-- A union of nothing says nothing. -/
theorem fold_of_absent {shapes : List (Option Shape)} (h : ¬shapes.any Option.isSome) :
    fold shapes = empty := by
  induction shapes with
  | nil => rfl
  | cons t rest ih =>
    rw [List.any_cons, Bool.or_eq_true, not_or, Option.not_isSome_iff_eq_none] at h
    rw [h.1, fold_none_cons, ih h.2]

/-- Wherever something is absent in a union it adds `undefined`, if it counts as missing. -/
theorem fold_present (shapes : List (Option Shape)) :
    fold (shapes.map fun t => some (t.getD missing))
      = if none ∈ shapes then (fold shapes).optional else fold shapes := by
  induction shapes with
  | nil => rfl
  | cons t rest ih =>
    rw [List.map_cons, fold_some_cons, ih]
    cases t with
    | none =>
      rw [if_pos List.mem_cons_self, fold_none_cons, Option.getD_none, missing_merge]
      split
      · rw [optional_optional]
      · rfl
    | some x =>
      have hmem : none ∈ some x :: rest ↔ none ∈ rest := by simp
      simp only [fold_some_cons, Option.getD_some, hmem]
      split
      · rw [merge_optional]
      · rfl

/-! ## The parts of a union -/

theorem contains_primitives_fold (shapes : List Shape) (p : Primitive) :
    (fold (shapes.map some)).primitives.contains p
      = shapes.any (·.primitives.contains p) := by
  induction shapes with
  | nil => exact Primitives.contains_empty p
  | cons s rest ih =>
    rw [List.map_cons, fold_some_cons, primitives_merge, Primitives.contains_union, ih,
      List.any_cons]

theorem contains_classes_fold (shapes : List Shape) (name : Text) :
    (fold (shapes.map some)).classes.contains name = shapes.any (·.classes.contains name) := by
  induction shapes with
  | nil => exact Names.contains_empty name
  | cons s rest ih =>
    rw [List.map_cons, fold_some_cons, classes_merge, Names.contains_union, ih, List.any_cons]

/-- **The element of a union** is the union of the elements there are. -/
theorem element_fold (shapes : List Shape) :
    (fold (shapes.map some)).element
      = if shapes.filterMap element = [] then none
        else some (fold ((shapes.filterMap element).map some)) := by
  induction shapes with
  | nil => rfl
  | cons s rest ih =>
    rw [List.map_cons, fold_some_cons, element_merge, ih, List.filterMap_cons]
    cases s.element with
    | none => rw [merge?_none_left]
    | some x =>
      rw [if_neg (List.cons_ne_nil _ _), List.map_cons, fold_some_cons]
      by_cases hrest : rest.filterMap element = []
      · rw [if_pos hrest, hrest, merge?_none_right, List.map_nil, fold_nil, merge_empty]
      · rw [if_neg hrest, merge?]

theorem isSome_members_fold (shapes : List Shape) :
    (fold (shapes.map some)).members.isSome = shapes.any (·.members.isSome) := by
  induction shapes with
  | nil => rfl
  | cons s rest ih =>
    rw [List.map_cons, fold_some_cons, isSome_members_merge, ih, List.any_cons]

/-! ## The members of a union -/

theorem memberNames_eq (s : Shape) : s.memberNames = keys (s.members.getD []) :=
  rfl

theorem memberNames_merge {s t : Shape} (hs : s.memberNames.Nodup) (ht : t.memberNames.Nodup) :
    (s.merge t).memberNames = (s.memberNames ++ t.memberNames).eraseDups := by
  rw [memberNames_eq] at hs ht ⊢
  rw [memberNames_eq, memberNames_eq, members_merge]
  cases hm : s.members with
  | none =>
    rw [mergeMembers?_none_left, Option.getD_none, keys_nil, List.nil_append, eraseDups_of_nodup ht]
  | some ms =>
    cases t.members with
    | none =>
      rw [mergeMembers?_none_right, Option.getD_none, keys_nil, List.append_nil]
      rw [← hm, eraseDups_of_nodup hs]
    | some ns => exact keys_mergeMembers ms ns

/-- **The names of a union** are the names of all shapes in the order in which they first appear,
each once. -/
theorem memberNames_fold {shapes : List Shape} (h : ∀ s ∈ shapes, s.memberNames.Nodup) :
    (fold (shapes.map some)).memberNames = (shapes.flatMap memberNames).eraseDups := by
  induction shapes with
  | nil => rfl
  | cons s rest ih =>
    obtain ⟨hs, hrest⟩ := List.forall_mem_cons.mp h
    have hnodup : (fold (rest.map some)).memberNames.Nodup := by
      rw [ih hrest]
      exact nodup_eraseDups _
    rw [List.map_cons, fold_some_cons, memberNames_merge hs hnodup, ih hrest,
      eraseDups_append_eraseDups, List.flatMap_cons]

/-- What the objects among some shapes have under a name, in order. -/
def column (name : Text) (shapes : List Shape) : List (Option Shape) :=
  shapes.filterMap fun s => s.members.map (last? (· = ·) name)

theorem column_cons (name : Text) (s : Shape) (rest : List Shape) :
    column name (s :: rest) = (s.members.map (last? (· = ·) name)).toList ++ column name rest := by
  rw [column, List.filterMap_cons]
  cases s.members <;> rfl

/-- A column is empty when there is no object. -/
theorem any_members_iff (name : Text) {shapes : List Shape} :
    shapes.any (·.members.isSome) = true ↔ column name shapes ≠ [] := by
  simp [column, List.filterMap_eq_nil_iff, Option.isSome_iff_ne_none]

/-- The union of what several objects have under one name: nothing if none of them has it, and else
one in which those that lack it count as `undefined`. -/
def unionOfColumn (shapes : List (Option Shape)) : Option Shape :=
  if shapes.any Option.isSome then some (fold (shapes.map fun t => some (t.getD missing))) else none

@[simp] theorem unionOfColumn_nil : unionOfColumn [] = none := rfl

@[simp] theorem unionOfColumn_singleton (t : Option Shape) : unionOfColumn [t] = t := by
  cases t with
  | none => rfl
  | some s => simp [unionOfColumn]

/-- One more object is merged in as a member is. -/
theorem unionOfColumn_cons (t : Option Shape) {rest : List (Option Shape)} (h : rest ≠ []) :
    unionOfColumn (t :: rest) = mergeMember t (unionOfColumn rest) := by
  unfold unionOfColumn
  rw [List.any_cons, List.map_cons, fold_some_cons]
  by_cases hrest : rest.any Option.isSome
  · rw [if_pos hrest, hrest, Bool.or_true, if_pos rfl]
    cases t with
    | none => rw [Option.getD_none, missing_merge, mergeMember]
    | some s => rw [Option.getD_some, mergeMember]
  · rw [if_neg hrest]
    cases t with
    | none => simp [hrest, mergeMember]
    | some s =>
      -- the rest is not empty, so it adds `undefined`
      have hnone : none ∈ rest := by
        obtain ⟨u, hu⟩ := List.exists_mem_of_ne_nil rest h
        cases u with
        | none => exact hu
        | some x => exact absurd (List.any_eq_true.mpr ⟨some x, hu, rfl⟩) hrest
      rw [fold_present, if_pos hnone, fold_of_absent hrest, Option.getD_some, merge_optional,
        merge_empty]
      rfl

/-- **A member of a union** is the union over all objects, where a missing member counts as
`undefined`. -/
theorem lastMember?_fold (shapes : List Shape) (name : Text) :
    (fold (shapes.map some)).lastMember? name = unionOfColumn (column name shapes) := by
  induction shapes with
  | nil => rfl
  | cons s rest ih =>
    have hrest : rest.any (·.members.isSome) = true ↔ column name rest ≠ [] := any_members_iff name
    rw [List.map_cons, fold_some_cons, lastMember?_merge, ih, isSome_members_fold, column_cons]
    cases hs : s.members with
    | none => simp [lastMember?, hs]
    | some ms =>
      by_cases hcolumn : column name rest = []
      · simp [lastMember?, hs, hrest, hcolumn]
      · simp [lastMember?, hs, hrest, hcolumn, unionOfColumn_cons]

/-! ## All parts at once -/

/-- The objects among some shapes, in order. -/
def objects (shapes : List Shape) : List Shape :=
  shapes.filter (·.members.isSome)

theorem objects_eq_nil_iff {shapes : List Shape} :
    objects shapes = [] ↔ ¬shapes.any (·.members.isSome) := by
  simp [objects]

/-- Only objects have names of members. -/
theorem flatMap_memberNames_objects (shapes : List Shape) :
    (objects shapes).flatMap memberNames = shapes.flatMap memberNames := by
  unfold objects
  induction shapes with
  | nil => rfl
  | cons s rest ih =>
    rw [List.filter_cons, List.flatMap_cons, ← ih]
    split
    next => exact List.flatMap_cons ..
    next hs =>
      have hnone : s.members = none := by simpa using hs
      rw [memberNames, hnone]
      rfl

/-- Without repeated names, a column has what is found in each object. -/
theorem column_eq_map_objects {shapes : List Shape} (h : ∀ s ∈ shapes, s.isDistinct = true)
    (name : Text) : column name shapes = (objects shapes).map (·.member? name) := by
  unfold column objects
  induction shapes with
  | nil => rfl
  | cons s rest ih =>
    obtain ⟨hs, hrest⟩ := List.forall_mem_cons.mp h
    rw [List.filterMap_cons, List.filter_cons, ih hrest]
    cases hm : s.members with
    | none => rfl
    | some ms =>
      rw [Option.map_some, Option.isSome_some, if_pos rfl, List.map_cons, member?_eq_last? hs, hm]
      rfl

/-- What is under a name in a union, if there is anything. -/
theorem fold_of_unionOfColumn {shapes : List (Option Shape)} {x : Shape}
    (h : unionOfColumn shapes = some x) : x = fold (shapes.map fun t => some (t.getD missing)) := by
  unfold unionOfColumn at h
  split at h
  next => exact (Option.some.inj h).symm
  next => cases h

/-- **The members of a union** are the names of the objects in the order in which they first appear,
each with the union over all objects of what they have under it, or else of `undefined`. -/
theorem members_fold {shapes : List Shape} (h : ∀ s ∈ shapes, s.isDistinct = true) :
    (fold (shapes.map some)).members =
      if objects shapes = [] then none
      else some (((objects shapes).flatMap memberNames).eraseDups.map fun name =>
        (name, fold ((objects shapes).map fun o => some ((o.member? name).getD missing)))) := by
  have hsome := isSome_members_fold shapes
  have hdistinct := isDistinct_fold h
  split
  next hnone =>
    rw [Bool.eq_false_iff.mpr (objects_eq_nil_iff.mp hnone)] at hsome
    exact Option.not_isSome_iff_eq_none.mp (Bool.eq_false_iff.mp hsome)
  next hobjects =>
    rw [not_not.mp (mt objects_eq_nil_iff.mpr hobjects)] at hsome
    obtain ⟨ms, hms⟩ := Option.isSome_iff_exists.mp hsome
    have hnames : keys ms = ((objects shapes).flatMap memberNames).eraseDups := by
      have hnodup : ∀ s ∈ shapes, s.memberNames.Nodup := fun s hs => by
        rw [memberNames_eq]
        cases hm : s.members with
        | none => exact List.nodup_nil
        | some ns => exact nodup_members (h s hs) hm
      rw [flatMap_memberNames_objects, ← memberNames_fold hnodup, memberNames_eq, hms,
        Option.getD_some]
    -- no name comes twice, so each one is looked up where it stands
    have hvalues : ∀ name x, (name, x) ∈ ms →
        x = fold ((objects shapes).map fun o => some ((o.member? name).getD missing)) := by
      intro name x hx
      have hread := (last?_eq_some_iff (nodup_members hdistinct hms)).mpr hx
      have hlast : (fold (shapes.map some)).lastMember? name = some x := by
        rw [lastMember?, hms, Option.bind_some, hread]
      rw [lastMember?_fold] at hlast
      have hx := fold_of_unionOfColumn hlast
      rwa [column_eq_map_objects h, List.map_map] at hx
    rw [hms, ← hnames, ← eq_map_keys hvalues]

/-- **A union is a union in each part**, for shapes that repeat no name: its kinds and classes are
those of all shapes, its element is the union of the elements there are, in order, and its members
are those of the objects, each the union of what every object has under its name, where an object
that lacks it counts as `undefined`. -/
theorem fold_part_by_part {shapes : List Shape} (h : ∀ s ∈ shapes, s.isDistinct = true) :
    (∀ p, (fold (shapes.map some)).primitives.contains p = true ↔
      ∃ s ∈ shapes, s.primitives.contains p = true) ∧
    (∀ name, (fold (shapes.map some)).classes.contains name = true ↔
      ∃ s ∈ shapes, s.classes.contains name = true) ∧
    (fold (shapes.map some)).element =
      (if shapes.filterMap element = [] then none
        else some (fold ((shapes.filterMap element).map some))) ∧
    (fold (shapes.map some)).members =
      if objects shapes = [] then none
      else some (((objects shapes).flatMap memberNames).eraseDups.map fun name =>
        (name, fold ((objects shapes).map fun o => some ((o.member? name).getD missing)))) := by
  refine ⟨fun p => ?_, fun name => ?_, element_fold shapes, members_fold h⟩
  · rw [contains_primitives_fold, List.any_eq_true]
  · rw [contains_classes_fold, List.any_eq_true]

/-- Objects with other shapes between them; the last two lack what the first one has. -/
def mixedSamples : List Shape :=
  [arrayOf (simple .null), objectOf [("b", simple .number), ("a", simple .null)], simple .string,
    objectOf [],
    (arrayOf (named "Row")).merge (objectOf [("c", simple .boolean), ("b", named "Row")])]

theorem fold_part_by_part_of_mixed_samples :
    (∀ s ∈ mixedSamples, s.isDistinct = true) ∧
    (fold (mixedSamples.map some)).primitives.contains .string = true ∧
    (fold (mixedSamples.map some)).classes.contains "Row" = false ∧
    (fold (mixedSamples.map some)).element = some ((simple .null).merge (named "Row")) ∧
    (fold (mixedSamples.map some)).members = some [
      (("b" : Text), fold [some (simple .number), some missing, some (named "Row")]),
      (("a" : Text), fold [some (simple .null), some missing, some missing]),
      (("c" : Text), fold [some missing, some missing, some (simple .boolean)])] := by
  have hdistinct : ∀ s ∈ mixedSamples, s.isDistinct = true := by decide
  obtain ⟨hprimitives, hclasses, helement, hmembers⟩ := fold_part_by_part hdistinct
  refine ⟨hdistinct, (hprimitives .string).mpr ⟨simple .string, by decide, rfl⟩, ?_, ?_, ?_⟩
  · rw [Bool.eq_false_iff, Ne, hclasses]
    decide
  · rw [helement]
    decide
  · rw [hmembers]
    decide

end Shape

end ShapeInference
