import ShapeInference.Proofs.Entries
import ShapeInference.Proofs.Union
import ShapeInference.Shape.Merge

/-!
# What merging does to each part of a shape

A merge is told part by part: kinds and classes are united, elements are merged where both sides
have them, and each member is merged with its counterpart or becomes optional. The laws of merging
are proved from these equations and by induction on the left shape.

- `Shape.part_induction`: induction on the parts of a shape;
- `Shape.mergeMember`, `Shape.last?_mergeMembers`: the rule for one member of a merge;
- `Shape.mergeMembers?`: the rule for the members of a merge;
- `Shape.merge_assoc`: merging is associative, the order of members included;
- `Shape.fold_append`: the union of a list is that of its parts.
-/

namespace ShapeInference

namespace Shape

open Entries

/-! ## Shapes by their parts -/

@[simp] theorem primitives_node (p : Primitives) (c : Names) (e : Option Shape)
    (m : Option (List (Text × Shape))) : (node p c e m).primitives = p := rfl

@[simp] theorem classes_node (p : Primitives) (c : Names) (e : Option Shape)
    (m : Option (List (Text × Shape))) : (node p c e m).classes = c := rfl

@[simp] theorem element_node (p : Primitives) (c : Names) (e : Option Shape)
    (m : Option (List (Text × Shape))) : (node p c e m).element = e := rfl

@[simp] theorem members_node (p : Primitives) (c : Names) (e : Option Shape)
    (m : Option (List (Text × Shape))) : (node p c e m).members = m := rfl

/-- Shapes with the same parts are the same. -/
theorem ext_parts {s t : Shape} (hp : s.primitives = t.primitives) (hc : s.classes = t.classes)
    (he : s.element = t.element) (hm : s.members = t.members) : s = t := by
  cases s
  cases t
  simp only [primitives, classes, element, members] at hp hc he hm
  rw [hp, hc, he, hm]

theorem sizeOf_element_lt {s x : Shape} (h : s.element = some x) : sizeOf x < sizeOf s := by
  cases s
  simp only [element] at h
  subst h
  simp only [node.sizeOf_spec, Option.some.sizeOf_spec]
  omega

theorem sizeOf_member_lt {s x : Shape} {ms : List (Text × Shape)} {name : Text}
    (h : s.members = some ms) (hx : (name, x) ∈ ms) : sizeOf x < sizeOf s := by
  have hlt := List.sizeOf_lt_of_mem hx
  cases s
  simp only [members] at h
  subst h
  simp only [Prod.mk.sizeOf_spec] at hlt
  simp only [node.sizeOf_spec, Option.some.sizeOf_spec]
  omega

/-- Induction on the parts of a shape: its element and its members come before it. -/
@[elab_as_elim] theorem part_induction {motive : Shape → Prop}
    (node : ∀ s : Shape, (∀ x, s.element = some x → motive x) →
      (∀ ms name x, s.members = some ms → (name, x) ∈ ms → motive x) → motive s) (s : Shape) :
    motive s :=
  node s (fun x _ => part_induction node x) (fun _ _ x _ _ => part_induction node x)
termination_by sizeOf s
decreasing_by
  · exact sizeOf_element_lt ‹_›
  · exact sizeOf_member_lt ‹_› ‹_›

/-! ## Optional shapes -/

@[simp] theorem primitives_optional (s : Shape) :
    s.optional.primitives = s.primitives.insert .undefined := by cases s; rfl

@[simp] theorem classes_optional (s : Shape) : s.optional.classes = s.classes := by cases s; rfl

@[simp] theorem element_optional (s : Shape) : s.optional.element = s.element := by cases s; rfl

@[simp] theorem members_optional (s : Shape) : s.optional.members = s.members := by cases s; rfl

theorem optional_optional (s : Shape) : s.optional.optional = s.optional :=
  ext_parts (by simp [Primitives.insert_insert_self]) (by simp) (by simp) (by simp)

/-- A shape is optional already exactly if `undefined` is one of its alternatives. -/
theorem optional_eq_self_iff {s : Shape} :
    s.optional = s ↔ s.primitives.contains .undefined = true := by
  rw [← Primitives.insert_eq_self_iff]
  constructor
  · intro h
    have := congrArg primitives h
    rwa [primitives_optional] at this
  · intro h
    exact ext_parts (by rw [primitives_optional, h]) (by simp) (by simp) (by simp)

/-! ## The parts of a merge -/

/-- The members of a merge, where either side may have had no object. -/
def mergeMembers? : Option (List (Text × Shape)) → Option (List (Text × Shape)) →
    Option (List (Text × Shape))
  | none, ns => ns
  | some ms, none => some ms
  | some ms, some ns => some (mergeMembers ms ns)

/-- A merge, part by part. -/
theorem merge_eq (s t : Shape) :
    s.merge t = node (s.primitives.union t.primitives) (s.classes.union t.classes)
      (merge? s.element t.element) (mergeMembers? s.members t.members) := by
  obtain ⟨p, c, e, m⟩ := s
  obtain ⟨p', c', e', m'⟩ := t
  cases e <;> cases m <;> rw [merge] <;> cases e' <;> cases m' <;> rfl

@[simp] theorem primitives_merge (s t : Shape) :
    (s.merge t).primitives = s.primitives.union t.primitives := by rw [merge_eq]; rfl

@[simp] theorem classes_merge (s t : Shape) :
    (s.merge t).classes = s.classes.union t.classes := by rw [merge_eq]; rfl

@[simp] theorem element_merge (s t : Shape) :
    (s.merge t).element = merge? s.element t.element := by rw [merge_eq]; rfl

@[simp] theorem members_merge (s t : Shape) :
    (s.merge t).members = mergeMembers? s.members t.members := by rw [merge_eq]; rfl

@[simp] theorem merge?_none_left (e : Option Shape) : merge? none e = e := rfl

@[simp] theorem merge?_none_right (e : Option Shape) : merge? e none = e := by cases e <;> rfl

@[simp] theorem mergeMembers?_none_left (m : Option (List (Text × Shape))) :
    mergeMembers? none m = m := rfl

@[simp] theorem mergeMembers?_none_right (m : Option (List (Text × Shape))) :
    mergeMembers? m none = m := by cases m <;> rfl

@[simp] theorem empty_merge (s : Shape) : empty.merge s = s := by
  unfold empty
  exact ext_parts (by simp) (by simp) (by simp) (by simp)

@[simp] theorem merge_empty (s : Shape) : s.merge empty = s := by
  unfold empty
  exact ext_parts (by simp) (by simp) (by simp) (by simp)

/-- A shape becomes optional by merging it into the shape of a member that is missing. -/
theorem missing_merge (s : Shape) : missing.merge s = s.optional := by
  unfold missing simple
  exact ext_parts (by simp [Primitives.insert_union]) (by simp) (by simp) (by simp)

theorem optional_merge (s t : Shape) : s.optional.merge t = (s.merge t).optional :=
  ext_parts (by simp [Primitives.insert_union]) (by simp) (by simp) (by simp)

theorem merge_optional (s t : Shape) : s.merge t.optional = (s.merge t).optional :=
  ext_parts (by simp [Primitives.union_insert]) (by simp) (by simp) (by simp)

/-! ## The members of a merge -/

/-- One member of a merge: the shapes that the two sides have for its name are merged, and a shape
that only one side has becomes optional. -/
def mergeMember : Option Shape → Option Shape → Option Shape
  | none, none => none
  | some s, none => some s.optional
  | none, some t => some t.optional
  | some s, some t => some (s.merge t)

theorem keys_mergeLeft : ∀ ms ns : List (Text × Shape), keys (mergeLeft ms ns) = keys ms
  | [], _ => by rw [mergeLeft]
  | (name, s) :: ms, ns => by rw [mergeLeft, keys_cons, keys_mergeLeft ms ns, keys_cons]

theorem last?_mergeLeft (name : Text) (ns : List (Text × Shape)) : ∀ ms : List (Text × Shape),
    last? (· = ·) name (mergeLeft ms ns)
      = (last? (· = ·) name ms).bind fun s => mergeMember (some s) (last? (· = ·) name ns)
  | [] => by rw [mergeLeft]; rfl
  | (n, s) :: ms => by
    rw [mergeLeft, last?, last?_mergeLeft name ns ms, last?]
    cases last? (· = ·) name ms with
    | some t => cases last? (· = ·) name ns <;> rfl
    | none =>
      by_cases hn : n = name
      · subst hn
        simp only [decide_true, if_true]
        cases last? (· = ·) n ns <;> rfl
      · simp [hn]

/-- The names that only the right object has. -/
theorem keys_onlyRight (ms ns : List (Text × Shape)) :
    keys (onlyRight ms ns) = (keys ns).removeAll (keys ms) := by
  unfold onlyRight keys List.removeAll
  rw [List.map_map, List.filter_map]
  congr 1
  refine List.filter_congr fun n _ => ?_
  have hany : (ms.any fun m => m.1 = n.1) = (ms.map Prod.fst).elem n.1 := by
    rw [Bool.eq_iff_iff, any_key_iff, List.elem_iff]
    rfl
  show (!ms.any fun m => m.1 = n.1) = !(ms.map Prod.fst).elem n.1
  rw [hany]

theorem last?_onlyRight (name : Text) (ms ns : List (Text × Shape)) :
    last? (· = ·) name (onlyRight ms ns)
      = if ms.any fun m => m.1 = name then none else (last? (· = ·) name ns).map optional := by
  have hread := last?_filter (fun n => !ms.any fun m => m.1 = n) name ns
  unfold onlyRight
  rw [last?_map (fun _ t => optional t), hread]
  cases ms.any fun m => m.1 = name <;> rfl

/-- The names of a merge: those of both sides, each at its first appearance. -/
theorem keys_mergeMembers (ms ns : List (Text × Shape)) :
    keys (mergeMembers ms ns) = (keys ms ++ keys ns).eraseDups := by
  rw [mergeMembers, keys_collapse, keys_append, keys_mergeLeft, keys_onlyRight,
    List.eraseDups_append, List.eraseDups_append]
  unfold List.removeAll
  rw [List.filter_filter]
  simp only [Bool.and_self]

theorem nodup_mergeMembers (ms ns : List (Text × Shape)) : (keys (mergeMembers ms ns)).Nodup :=
  nodup_collapse _

/-- The shape of one member of a merge. -/
theorem last?_mergeMembers (name : Text) (ms ns : List (Text × Shape)) :
    last? (· = ·) name (mergeMembers ms ns)
      = mergeMember (last? (· = ·) name ms) (last? (· = ·) name ns) := by
  rw [mergeMembers, last?_collapse, last?_append, last?_onlyRight, last?_mergeLeft]
  by_cases hname : name ∈ keys ms
  · obtain ⟨s, hs⟩ := Option.isSome_iff_exists.mp (isSome_last?_iff.mpr hname)
    rw [if_pos (any_key_iff.mpr hname), hs]
    rfl
  · rw [if_neg (mt any_key_iff.mp hname), last?_eq_none_iff.mpr hname]
    cases last? (· = ·) name ns <;> rfl

/-! ## Associativity

The induction is on the left shape. A member that the left object lacks needs no induction: becoming
optional commutes with merging, so it does not matter when a shape does. -/

theorem mergeMember_assoc {a b c : Option Shape}
    (ih : ∀ s, a = some s → ∀ t u : Shape, (s.merge t).merge u = s.merge (t.merge u)) :
    mergeMember (mergeMember a b) c = mergeMember a (mergeMember b c) := by
  cases a with
  | none =>
    cases b <;> cases c <;> simp only [mergeMember, optional_merge, optional_optional]
  | some s =>
    cases b <;> cases c <;>
      simp only [mergeMember, optional_merge, merge_optional, optional_optional, ih s rfl]

theorem mergeMembers_assoc {ms ns os : List (Text × Shape)}
    (ih : ∀ name s, (name, s) ∈ ms → ∀ t u : Shape, (s.merge t).merge u = s.merge (t.merge u)) :
    mergeMembers (mergeMembers ms ns) os = mergeMembers ms (mergeMembers ns os) := by
  refine ext_of_nodup (nodup_mergeMembers _ _) ?_ fun name => ?_
  · rw [keys_mergeMembers, keys_mergeMembers, keys_mergeMembers, keys_mergeMembers,
      eraseDups_eraseDups_append, eraseDups_append_eraseDups, List.append_assoc]
  · rw [last?_mergeMembers, last?_mergeMembers, last?_mergeMembers, last?_mergeMembers]
    exact mergeMember_assoc fun s hs => ih name s (mem_of_last? hs)

/-- **Merging is associative**, for shapes of any form and with the order of members. -/
theorem merge_assoc (s t u : Shape) : (s.merge t).merge u = s.merge (t.merge u) := by
  induction s using part_induction generalizing t u with
  | node s ihElement ihMember =>
    refine ext_parts ?_ ?_ ?_ ?_
    · simp [Primitives.union_assoc]
    · simp [Names.union_assoc]
    · -- where one of the three is absent the other two meet in either grouping
      simp only [element_merge]
      cases he : s.element with
      | none => rfl
      | some x =>
        cases t.element <;> cases u.element <;> simp only [merge?]
        rw [ihElement x he]
    · simp only [members_merge]
      cases hm : s.members with
      | none => rfl
      | some ms =>
        cases t.members <;> cases u.members <;> simp only [mergeMembers?]
        rw [mergeMembers_assoc fun name x hx => ihMember ms name x hm hx]

theorem merge?_assoc (a b c : Option Shape) : merge? (merge? a b) c = merge? a (merge? b c) := by
  cases a <;> cases b <;> cases c <;> simp only [merge?, merge_assoc]

/-! ## Folds -/

@[simp] theorem fold_nil : fold [] = empty := rfl

/-- Going on from a shape is the same as beginning anew and merging the result into it. -/
theorem foldl_merge (shapes : List (Option Shape)) (s : Shape) :
    shapes.foldl (fun s t => t.elim s s.merge) s = s.merge (fold shapes) := by
  -- the start has to be arbitrary, since it grows along the list
  induction shapes generalizing s with
  | nil => rw [List.foldl_nil, fold_nil, merge_empty]
  | cons t rest ih =>
    unfold fold
    rw [List.foldl_cons, List.foldl_cons, ih, ih (t.elim empty empty.merge)]
    cases t with
    | none => simp only [Option.elim_none, empty_merge]
    | some t => simp only [Option.elim_some, empty_merge, merge_assoc]

@[simp] theorem fold_none_cons (shapes : List (Option Shape)) :
    fold (none :: shapes) = fold shapes := rfl

@[simp] theorem fold_some_cons (s : Shape) (shapes : List (Option Shape)) :
    fold (some s :: shapes) = s.merge (fold shapes) := by
  show shapes.foldl (fun s t => t.elim s s.merge) (empty.merge s) = _
  rw [foldl_merge, empty_merge]

/-- The union of a list is that of its two parts, wherever it is split. -/
theorem fold_append (xs ys : List (Option Shape)) :
    fold (xs ++ ys) = (fold xs).merge (fold ys) := by
  rw [← foldl_merge, fold, List.foldl_append]
  rfl

/-- **Merging is associative and folding can be split anywhere**, for shapes that may be absent,
whatever their parts are and whether or not names are repeated in them. -/
theorem merge_associative_and_fold_splits :
    (∀ a b c : Option Shape, merge? (merge? a b) c = merge? a (merge? b c)) ∧
    ∀ xs ys : List (Option Shape),
      some (fold (xs ++ ys)) = merge? (some (fold xs)) (some (fold ys)) :=
  ⟨merge?_assoc, fun xs ys => congrArg some (fold_append xs ys)⟩

end Shape

end ShapeInference
