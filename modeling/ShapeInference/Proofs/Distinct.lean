import Mathlib.Data.List.Induction
import ShapeInference.Proofs.Merge

/-!
# Shapes without repeated names

When no object of a shape has two members of one name, merging adds nothing that is there already:
what was merged in once is absorbed when it comes again, and the order of members stays as it was.
So shapes are ordered by what they absorb, and a shape absorbs a union exactly if it absorbs its
parts.

- `Shape.isDistinct`: whether no object at any depth repeats a name;
- `Shape.isDistinct_merge`: merging keeps this;
- `Shape.merge_merge_self`: a shape that was merged from the left is absorbed;
- `Shape.Absorbs`: merging a shape into another changes nothing;
- `Shape.absorbs_fold_iff`: a shape absorbs a union exactly if it absorbs its parts;
- `Shape.Absorbs.fold`: absorbing, lifted to unions;
- `Shape.absorbs_arrayOf_iff`, `Shape.absorbs_objectOf_iff`: absorbing arrays and objects;
- `Shape.seen_samples_are_absorbed`: so a union is not changed by samples that come again.
-/

namespace ShapeInference

namespace Shape

open Entries

mutual

/-- Whether no object at any depth has two members of one name. -/
def isDistinct : Shape → Bool
  | node _ _ e m =>
    (match e with
      | none => true
      | some x => isDistinct x)
      && match m with
        | none => true
        | some ms => decide (keys ms).Nodup && areDistinct ms

/-- Whether this holds of the shapes of all members. -/
def areDistinct : List (Text × Shape) → Bool
  | [] => true
  | (_, s) :: ms => isDistinct s && areDistinct ms

end

theorem areDistinct_iff : ∀ {ms : List (Text × Shape)},
    areDistinct ms = true ↔ ∀ name x, (name, x) ∈ ms → x.isDistinct = true
  | [] => by simp [areDistinct]
  | (name, s) :: ms => by
    rw [areDistinct, Bool.and_eq_true, areDistinct_iff, forall_mem_cons]

/-- A shape repeats no name if its element and its members do not and its own names differ. -/
theorem isDistinct_iff {s : Shape} : s.isDistinct = true ↔
    (∀ x, s.element = some x → x.isDistinct = true) ∧
    ∀ ms, s.members = some ms →
      (keys ms).Nodup ∧ ∀ name x, (name, x) ∈ ms → x.isDistinct = true := by
  obtain ⟨p, c, e, m⟩ := s
  cases e <;> cases m <;> simp [isDistinct, areDistinct_iff]

section Parts

variable {s x : Shape} {ms : List (Text × Shape)} {name : Text}

theorem isDistinct_element (h : s.isDistinct = true) (hx : s.element = some x) :
    x.isDistinct = true :=
  (isDistinct_iff.mp h).1 x hx

theorem nodup_members (h : s.isDistinct = true) (hm : s.members = some ms) : (keys ms).Nodup :=
  ((isDistinct_iff.mp h).2 ms hm).1

theorem isDistinct_member (h : s.isDistinct = true) (hm : s.members = some ms)
    (hx : last? (· = ·) name ms = some x) : x.isDistinct = true :=
  ((isDistinct_iff.mp h).2 ms hm).2 name x (mem_of_last? hx)

/-- Where no name is repeated there is no difference between the first and the last member. -/
theorem member?_eq_last? (h : s.isDistinct = true) (name : Text) :
    s.member? name = s.members.bind (last? (· = ·) name) := by
  rw [member?]
  cases hm : s.members with
  | none => rfl
  | some ms => exact first?_eq_last? (nodup_members h hm)

end Parts

/-! ## Merging repeats no name -/

theorem isDistinct_optional {s : Shape} (h : s.isDistinct = true) :
    s.optional.isDistinct = true := by
  rw [isDistinct_iff] at h ⊢
  rwa [element_optional, members_optional]

/-- Merging members repeats no name in the shape of any of them. -/
theorem isDistinct_mergeMember {a b : Option Shape} {x : Shape}
    (ih : ∀ s, a = some s → ∀ t, b = some t → (s.merge t).isDistinct = true)
    (ha : ∀ s, a = some s → s.isDistinct = true) (hb : ∀ t, b = some t → t.isDistinct = true)
    (hx : mergeMember a b = some x) : x.isDistinct = true := by
  cases a with
  | none =>
    cases b with
    | none => cases hx
    | some t =>
      obtain rfl : t.optional = x := Option.some.inj hx
      exact isDistinct_optional (hb t rfl)
  | some s =>
    cases b with
    | none =>
      obtain rfl : s.optional = x := Option.some.inj hx
      exact isDistinct_optional (ha s rfl)
    | some t =>
      obtain rfl : s.merge t = x := Option.some.inj hx
      exact ih s rfl t rfl

/-- **Merging repeats no name** if neither side does. -/
theorem isDistinct_merge {s t : Shape} (hs : s.isDistinct = true) (ht : t.isDistinct = true) :
    (s.merge t).isDistinct = true := by
  induction s using part_induction generalizing t with
  | node s ihElement ihMember =>
    rw [isDistinct_iff]
    constructor
    · intro x hx
      rw [element_merge] at hx
      cases he : s.element with
      | none =>
        rw [he, merge?_none_left] at hx
        exact isDistinct_element ht hx
      | some y =>
        have hy := isDistinct_element hs he
        cases hf : t.element with
        | none =>
          rw [he, hf, merge?_none_right] at hx
          exact Option.some.inj hx ▸ hy
        | some z =>
          rw [he, hf] at hx
          exact Option.some.inj hx ▸ ihElement y he hy (isDistinct_element ht hf)
    · intro os hos
      rw [members_merge] at hos
      cases hm : s.members with
      | none =>
        rw [hm, mergeMembers?_none_left] at hos
        exact (isDistinct_iff.mp ht).2 os hos
      | some ms =>
        cases hn : t.members with
        | none =>
          rw [hm, hn, mergeMembers?_none_right] at hos
          exact (isDistinct_iff.mp hs).2 os (hm.trans hos)
        | some ns =>
          rw [hm, hn] at hos
          obtain rfl : mergeMembers ms ns = os := Option.some.inj hos
          -- collapsing keeps the names apart, so only the shapes of the members are left
          refine ⟨nodup_mergeMembers ms ns, fun name x hx => ?_⟩
          rw [← last?_eq_some_iff (nodup_mergeMembers ms ns), last?_mergeMembers] at hx
          refine isDistinct_mergeMember (fun y hy z hz => ?_) (fun y => isDistinct_member hs hm)
            (fun z => isDistinct_member ht hn) hx
          exact ihMember ms name y hm (mem_of_last? hy) (isDistinct_member hs hm hy)
            (isDistinct_member ht hn hz)

theorem isDistinct_fold {shapes : List Shape} (h : ∀ s ∈ shapes, s.isDistinct = true) :
    (fold (shapes.map some)).isDistinct = true := by
  induction shapes with
  | nil => rfl
  | cons s rest ih =>
    rw [List.map_cons, fold_some_cons]
    exact isDistinct_merge (h s List.mem_cons_self) (ih fun t ht => h t (List.mem_cons_of_mem _ ht))

/-! ## What was merged from the left is absorbed -/

/-- Removing repetitions from a list that goes on with what it began with. -/
theorem eraseDups_append_of_subset {xs ys : List Text} (h : ∀ y ∈ ys, y ∈ xs) :
    (xs ++ ys).eraseDups = xs.eraseDups := by
  have hnone : ys.removeAll xs = [] := by
    refine List.filter_eq_nil_iff.mpr fun y hy => ?_
    simpa using h y hy
  rw [List.eraseDups_append, hnone, List.eraseDups_nil, List.append_nil]

/-- Merging members into an object changes nothing exactly if it changes none of its members and
adds none. -/
theorem mergeMembers_eq_self_iff {ms ns : List (Text × Shape)} (hms : (keys ms).Nodup) :
    mergeMembers ms ns = ms ↔
      ∀ name, mergeMember (last? (· = ·) name ms) (last? (· = ·) name ns)
        = last? (· = ·) name ms := by
  constructor
  · intro h name
    rw [← last?_mergeMembers, h]
  · intro h
    refine ext_of_nodup (nodup_mergeMembers ms ns) ?_ fun name => ?_
    · rw [keys_mergeMembers, eraseDups_append_of_subset, eraseDups_of_nodup hms]
      -- a name that only the right side had would turn up in the merge
      intro name hname
      obtain ⟨t, ht⟩ := Option.isSome_iff_exists.mp (isSome_last?_iff.mpr hname)
      have hread := h name
      rw [ht] at hread
      rw [← isSome_last?_iff, ← hread]
      cases last? (· = ·) name ms <;> rfl
    · rw [last?_mergeMembers, h name]

theorem mergeMember_self {a : Option Shape} (ih : ∀ s, a = some s → s.merge s = s) :
    mergeMember a a = a := by
  cases a with
  | none => rfl
  | some s => simp only [mergeMember, ih s rfl]

theorem mergeMember_mergeMember_self {a b : Option Shape}
    (ih : ∀ s, a = some s → ∀ t : Shape, (s.merge t).merge s = s.merge t) :
    mergeMember (mergeMember a b) a = mergeMember a b := by
  cases a with
  | none => cases b <;> simp only [mergeMember, optional_optional]
  | some s =>
    cases b with
    | none =>
      have hself : s.merge s = s := by simpa using ih s rfl empty
      simp only [mergeMember, optional_merge, hself]
    | some t => simp only [mergeMember, ih s rfl t]

/-- **A shape is absorbed** by a merge in which it was the left side. -/
theorem merge_merge_self {s : Shape} (hs : s.isDistinct = true) (t : Shape) :
    (s.merge t).merge s = s.merge t := by
  induction s using part_induction generalizing t with
  | node s ihElement ihMember =>
    refine ext_parts ?_ ?_ ?_ ?_
    · simp only [primitives_merge, Primitives.union_union_self]
    · simp only [classes_merge, Names.union_union_self]
    · simp only [element_merge]
      cases he : s.element with
      | none => simp
      | some x =>
        have hx := ihElement x he (isDistinct_element hs he)
        cases t.element with
        | none =>
          -- the absent element stands for the shape that says nothing
          have hself : x.merge x = x := by simpa using hx empty
          simp only [merge?, hself]
        | some y => simp only [merge?, hx y]
    · simp only [members_merge]
      cases hm : s.members with
      | none => simp
      | some ms =>
        have ih : ∀ name x, last? (· = ·) name ms = some x →
            ∀ t : Shape, (x.merge t).merge x = x.merge t := fun name x hx =>
          ihMember ms name x hm (mem_of_last? hx) (isDistinct_member hs hm hx)
        cases t.members with
        | none =>
          refine congrArg some ((mergeMembers_eq_self_iff (nodup_members hs hm)).mpr fun name => ?_)
          exact mergeMember_self fun x hx => by simpa using ih name x hx empty
        | some ns =>
          refine congrArg some ((mergeMembers_eq_self_iff (nodup_mergeMembers ms ns)).mpr
            fun name => ?_)
          rw [last?_mergeMembers]
          exact mergeMember_mergeMember_self (ih name)

theorem merge_self {s : Shape} (hs : s.isDistinct = true) : s.merge s = s := by
  simpa using merge_merge_self hs empty

/-! ## Absorbing -/

/-- Merging a shape into another changes nothing there. -/
def Absorbs (t s : Shape) : Prop :=
  t.merge s = t

variable {t : Shape}

theorem absorbs_empty (t : Shape) : t.Absorbs empty :=
  merge_empty t

/-- A shape absorbs a merge exactly if it absorbs both sides. -/
theorem absorbs_merge_iff {a b : Shape} (ha : a.isDistinct = true) (hb : b.isDistinct = true) :
    t.Absorbs (a.merge b) ↔ t.Absorbs a ∧ t.Absorbs b := by
  unfold Absorbs
  constructor
  · intro h
    constructor
    · calc
        t.merge a = (t.merge (a.merge b)).merge a := by rw [h]
        _ = t.merge (a.merge b) := by rw [merge_assoc, merge_merge_self ha]
        _ = t := h
    · calc
        t.merge b = (t.merge (a.merge b)).merge b := by rw [h]
        _ = t.merge (a.merge b) := by rw [merge_assoc, merge_assoc, merge_self hb]
        _ = t := h
  · rintro ⟨hta, htb⟩
    rw [← merge_assoc, hta, htb]

/-- **A shape absorbs a union** exactly if it absorbs every part. -/
theorem absorbs_fold_iff {shapes : List Shape} (h : ∀ s ∈ shapes, s.isDistinct = true) :
    t.Absorbs (fold (shapes.map some)) ↔ ∀ s ∈ shapes, t.Absorbs s := by
  induction shapes with
  | nil => simpa using absorbs_empty t
  | cons s rest ih =>
    obtain ⟨hs, hrest⟩ := List.forall_mem_cons.mp h
    rw [List.map_cons, fold_some_cons, absorbs_merge_iff hs (isDistinct_fold hrest), ih hrest,
      List.forall_mem_cons]

theorem Absorbs.trans {u s : Shape} (htu : t.Absorbs u) (hus : u.Absorbs s) : t.Absorbs s := by
  unfold Absorbs at *
  calc
    t.merge s = (t.merge u).merge s := by rw [htu]
    _ = t.merge u := by rw [merge_assoc, hus]
    _ = t := htu

/-- A union absorbs the parts that it is made of. -/
theorem fold_absorbs {shapes : List Shape} (h : ∀ s ∈ shapes, s.isDistinct = true) {s : Shape}
    (hs : s ∈ shapes) : (fold (shapes.map some)).Absorbs s :=
  (absorbs_fold_iff h).mp (merge_self (isDistinct_fold h)) s hs

/-- A union absorbs another one if each part of that is absorbed by one of its own. -/
theorem Absorbs.fold {parts shapes : List Shape} (hparts : ∀ s ∈ parts, s.isDistinct = true)
    (hshapes : ∀ s ∈ shapes, s.isDistinct = true)
    (h : ∀ s ∈ shapes, ∃ t ∈ parts, t.Absorbs s) :
    (fold (parts.map some)).Absorbs (fold (shapes.map some)) := by
  rw [absorbs_fold_iff hshapes]
  intro s hs
  obtain ⟨t, ht, hts⟩ := h s hs
  exact (fold_absorbs hparts ht).trans hts

/-! ## Absorbing the shape of one value -/

/-- Absorbing, part by part. -/
theorem absorbs_iff {s : Shape} : t.Absorbs s ↔
    t.primitives.union s.primitives = t.primitives ∧ t.classes.union s.classes = t.classes ∧
    merge? t.element s.element = t.element ∧ mergeMembers? t.members s.members = t.members := by
  constructor
  · intro h
    have hm : t.merge s = t := h
    rw [← primitives_merge, ← classes_merge, ← element_merge, ← members_merge, hm]
    exact ⟨rfl, rfl, rfl, rfl⟩
  · rintro ⟨hp, hc, he, hm⟩
    refine ext_parts ?_ ?_ ?_ ?_
    · rw [primitives_merge, hp]
    · rw [classes_merge, hc]
    · rw [element_merge, he]
    · rw [members_merge, hm]

theorem absorbs_arrayOf_iff {x : Shape} :
    t.Absorbs (arrayOf x) ↔ ∃ y, t.element = some y ∧ y.Absorbs x := by
  rw [absorbs_iff]
  cases t.element <;> simp [arrayOf, merge?, Absorbs]

/-- One member stays as it is if what is merged in is absorbed, or, where nothing is merged in, if
it may be `undefined`. -/
theorem mergeMember_eq_self_iff {a b : Option Shape} : mergeMember a b = a ↔
    (∀ x, b = some x → ∃ y, a = some y ∧ y.Absorbs x) ∧
    ∀ y, a = some y → b = none → y.primitives.contains .undefined = true := by
  cases a <;> cases b <;> simp [mergeMember, optional_eq_self_iff, Absorbs]

/-- Which objects are absorbed: those that have no other names, whose members are absorbed, and
which lack only members that may be `undefined`. -/
theorem absorbs_objectOf_iff (ht : t.isDistinct = true) {ns : List (Text × Shape)} :
    t.Absorbs (objectOf ns) ↔ t.members.isSome = true ∧
      (∀ name x, last? (· = ·) name ns = some x →
        ∃ y, t.member? name = some y ∧ y.Absorbs x) ∧
      ∀ name y, t.member? name = some y → last? (· = ·) name ns = none →
        y.primitives.contains .undefined = true := by
  simp only [member?_eq_last? ht]
  cases hm : t.members with
  | none => simp [absorbs_iff, objectOf, hm]
  | some ms =>
    have hmembers : t.Absorbs (objectOf ns) ↔ mergeMembers ms ns = ms := by
      simp [absorbs_iff, objectOf, mergeMembers?, hm]
    rw [hmembers, mergeMembers_eq_self_iff (nodup_members ht hm)]
    simp only [mergeMember_eq_self_iff, forall_and, Option.isSome_some, true_and, Option.bind_some]

/-! ## Samples that come again -/

/-- A shape that is among those that a union is made of adds nothing when it comes once more. -/
theorem fold_append_of_mem {parts : List Shape} (h : ∀ s ∈ parts, s.isDistinct = true) {s : Shape}
    (hs : s ∈ parts) : fold ((parts ++ [s]).map some) = fold (parts.map some) := by
  have habsorbed : (fold (parts.map some)).merge s = fold (parts.map some) := fold_absorbs h hs
  rw [List.map_append, fold_append, List.map_singleton, fold_some_cons, fold_nil, merge_empty,
    habsorbed]

/-- Leaving out what was there before, at the end of a list. -/
theorem eraseDups_append_singleton (parts : List Shape) (s : Shape) :
    (parts ++ [s]).eraseDups = if s ∈ parts then parts.eraseDups else parts.eraseDups ++ [s] := by
  rw [List.eraseDups_append]
  by_cases hs : s ∈ parts
  · simp [List.removeAll, hs]
  · simp [List.removeAll, hs, List.eraseDups_cons]

/-- Leaving out later repetitions does not change a union. -/
theorem fold_eraseDups {parts : List Shape} (h : ∀ s ∈ parts, s.isDistinct = true) :
    fold (parts.eraseDups.map some) = fold (parts.map some) := by
  -- from the end, since what is left out depends on what comes before
  induction parts using List.reverseRecOn with
  | nil => rfl
  | append_singleton parts s ih =>
    have hparts : ∀ t ∈ parts, t.isDistinct = true := fun t ht =>
      h t (List.mem_append_left _ ht)
    rw [eraseDups_append_singleton]
    split
    next hs => rw [ih hparts, fold_append_of_mem hparts hs]
    next => rw [List.map_append, List.map_append, fold_append, fold_append, ih hparts]

/-- **What was seen already is absorbed**: a union of shapes that repeat no name does not change
when it is merged with a union of any of them, in whatever order and however often they come, nor
when a shape is merged with itself, nor when all later repetitions are left out. -/
theorem seen_samples_are_absorbed {parts : List Shape} (h : ∀ s ∈ parts, s.isDistinct = true) :
    (∀ shapes : List Shape, (∀ s ∈ shapes, s ∈ parts) →
      (fold (parts.map some)).merge (fold (shapes.map some)) = fold (parts.map some)) ∧
    (∀ s ∈ parts, s.merge s = s) ∧
    fold (parts.eraseDups.map some) = fold (parts.map some) := by
  refine ⟨fun shapes hshapes => ?_, fun s hs => merge_self (h s hs), fold_eraseDups h⟩
  have hdistinct : ∀ s ∈ shapes, s.isDistinct = true := fun s hs => h s (hshapes s hs)
  have habsorbs : (fold (parts.map some)).Absorbs (fold (shapes.map some)) :=
    (absorbs_fold_iff hdistinct).mpr fun s hs => fold_absorbs h (hshapes s hs)
  exact habsorbs

/-- Objects whose members overlap, one of them twice. -/
def overlappingSamples : List Shape :=
  [objectOf [("b", simple .number), ("a", arrayOf (objectOf [("x", simple .null)]))],
    arrayOf (simple .string), objectOf [("a", arrayOf (objectOf [("y", simple .boolean)]))],
    arrayOf (simple .string), simple .null]

theorem seen_samples_are_absorbed_of_overlapping :
    (∀ s ∈ overlappingSamples, s.isDistinct = true) ∧
    (∀ s ∈ overlappingSamples.reverse, s ∈ overlappingSamples) ∧
    (fold (overlappingSamples.map some)).merge (fold (overlappingSamples.reverse.map some))
      = fold (overlappingSamples.map some) ∧
    fold (overlappingSamples.reverse.map some) ≠ fold (overlappingSamples.map some) ∧
    overlappingSamples.eraseDups.length = 4 ∧
    fold (overlappingSamples.eraseDups.map some) = fold (overlappingSamples.map some) := by
  have hdistinct : ∀ s ∈ overlappingSamples, s.isDistinct = true := by decide
  have hagain : ∀ s ∈ overlappingSamples.reverse, s ∈ overlappingSamples := fun s hs =>
    List.mem_reverse.mp hs
  obtain ⟨habsorbed, -, hrepetitions⟩ := seen_samples_are_absorbed hdistinct
  exact ⟨hdistinct, hagain, habsorbed _ hagain, by decide, by decide, hrepetitions⟩

end Shape

end ShapeInference
