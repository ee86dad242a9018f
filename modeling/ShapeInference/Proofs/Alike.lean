import ShapeInference.Proofs.Merge

/-!
# Shapes that differ only in the order of members

The members of a merge follow the left side, so merging is not commutative on the nose. It is up to
the order of members at every depth, and up to entries of a repeated name that a later one hides.

- `Shape.lastMember?`: the shape of the last member with a name;
- `Shape.Alike`: shapes with the same content, whatever the order of their members;
- `Shape.Alike.merge`: being alike survives merging;
- `Shape.merge_comm`: merging in either order gives shapes that are alike;
- `Shape.alike_fold_of_perm`: so does folding in any order.
-/

namespace ShapeInference

namespace Shape

open Entries

/-- The shape of the last member with a name. -/
def lastMember? (s : Shape) (name : Text) : Option Shape :=
  s.members.bind (last? (· = ·) name)

/-- Shapes with the same kinds and classes, which both or neither have elements, and these alike,
and which both or neither have members, and these under the same names and alike. Members are read
as a mapping, in which the last entry of a repeated name counts. -/
inductive Alike : Shape → Shape → Prop where
  | intro {s t : Shape} (primitives : s.primitives = t.primitives)
      (classes : s.classes = t.classes) (element : Option.Rel Alike s.element t.element)
      (members : s.members.isSome = t.members.isSome)
      (member : ∀ name, Option.Rel Alike (s.lastMember? name) (t.lastMember? name)) : Alike s t

/-! ## Reading members -/

/-- A shape that is read as a member is one of the members. -/
theorem mem_of_lastMember? {s x : Shape} {name : Text} (h : s.lastMember? name = some x) :
    ∃ ms, s.members = some ms ∧ (name, x) ∈ ms := by
  obtain ⟨ms, hms, hx⟩ := Option.bind_eq_some_iff.mp h
  exact ⟨ms, hms, mem_of_last? hx⟩

/-- Induction on the parts of a shape, where members are read by name. -/
@[elab_as_elim] theorem reading_induction {motive : Shape → Prop}
    (node : ∀ s, (∀ x, s.element = some x → motive x) →
      (∀ name x, s.lastMember? name = some x → motive x) → motive s) (s : Shape) : motive s := by
  induction s using part_induction with
  | node s ihElement ihMember =>
    refine node s ihElement fun name x hx => ?_
    obtain ⟨ms, hms, hmem⟩ := mem_of_lastMember? hx
    exact ihMember ms name x hms hmem

theorem lastMember?_eq_none {s : Shape} (h : ¬s.members.isSome) (name : Text) :
    s.lastMember? name = none := by
  rw [lastMember?, Option.not_isSome_iff_eq_none.mp h]
  rfl

/-- A merge has members if either side had some. -/
theorem isSome_members_merge (s t : Shape) :
    (s.merge t).members.isSome = (s.members.isSome || t.members.isSome) := by
  rw [members_merge]
  cases s.members <;> cases t.members <;> rfl

/-- A member of a merge. It can only be missing on one side when both sides have objects; otherwise
the members are those of the only object. -/
theorem lastMember?_merge (s t : Shape) (name : Text) :
    (s.merge t).lastMember? name
      = if s.members.isSome ∧ t.members.isSome then
          mergeMember (s.lastMember? name) (t.lastMember? name)
        else (s.lastMember? name).or (t.lastMember? name) := by
  unfold lastMember?
  rw [members_merge]
  cases s.members with
  | none => simp
  | some ms =>
    cases t.members with
    | none => simp
    | some ns => simpa [mergeMembers?] using last?_mergeMembers name ms ns

/-! ## Being alike, where a shape may be absent -/

section Absent

variable {a a' b b' c : Option Shape}

theorem rel_self {r : Shape → Shape → Prop} (h : ∀ x, a = some x → r x x) : Option.Rel r a a := by
  cases a with
  | none => exact .none
  | some x => exact .some (h x rfl)

theorem rel_trans (ih : ∀ x, a = some x → ∀ y z, Alike x y → Alike y z → Alike x z)
    (hab : Option.Rel Alike a b) (hbc : Option.Rel Alike b c) : Option.Rel Alike a c := by
  cases hab with
  | none => exact hbc
  | some hxy =>
    cases hbc with
    | some hyz => exact .some (ih _ rfl _ _ hxy hyz)

theorem rel_or (ha : Option.Rel Alike a a') (hb : Option.Rel Alike b b') :
    Option.Rel Alike (a.or b) (a'.or b') := by
  cases ha with
  | none => exact hb
  | some h => exact .some h

theorem rel_merge?
    (ih : ∀ x, a = some x → ∀ x' y y', Alike x x' → Alike y y' → Alike (x.merge y) (x'.merge y'))
    (ha : Option.Rel Alike a a') (hb : Option.Rel Alike b b') :
    Option.Rel Alike (merge? a b) (merge? a' b') := by
  cases ha with
  | none => exact hb
  | some hx =>
    cases hb with
    | none => exact .some hx
    | some hy => exact .some (ih _ rfl _ _ _ hx hy)

theorem rel_merge?_comm (ih : ∀ x, a = some x → ∀ y, Alike (x.merge y) (y.merge x))
    (hself : ∀ x, Alike x x) : Option.Rel Alike (merge? a b) (merge? b a) := by
  cases a with
  | none => simpa using rel_self fun x _ => hself x
  | some x =>
    cases b with
    | none => exact .some (hself x)
    | some y => exact .some (ih x rfl y)

end Absent

/-! ## Being alike is an equivalence -/

namespace Alike

theorem refl (s : Shape) : Alike s s := by
  induction s using reading_induction with
  | node s ihElement ihMember =>
    exact ⟨rfl, rfl, rel_self ihElement, rfl, fun name => rel_self (ihMember name)⟩

theorem trans {s t u : Shape} (hst : Alike s t) (htu : Alike t u) : Alike s u := by
  induction s using reading_induction generalizing t u with
  | node s ihElement ihMember =>
    obtain ⟨hp, hc, he, hm, hn⟩ := hst
    obtain ⟨hp', hc', he', hm', hn'⟩ := htu
    refine ⟨hp.trans hp', hc.trans hc', ?_, hm.trans hm', fun name => ?_⟩
    · exact rel_trans (fun x hx y z => ihElement x hx) he he'
    · exact rel_trans (fun x hx y z => ihMember name x hx) (hn name) (hn' name)

/-! ## Merging keeps shapes alike -/

theorem optional {s t : Shape} (h : Alike s t) : Alike s.optional t.optional := by
  obtain ⟨hp, hc, he, hm, hn⟩ := h
  refine ⟨?_, ?_, ?_, ?_, fun name => ?_⟩
  · rw [primitives_optional, primitives_optional, hp]
  · rw [classes_optional, classes_optional, hc]
  · rwa [element_optional, element_optional]
  · rwa [members_optional, members_optional]
  · simpa only [lastMember?, members_optional] using hn name

theorem rel_mergeMember {a a' b b' : Option Shape}
    (ih : ∀ x, a = some x → ∀ x' y y', Alike x x' → Alike y y' → Alike (x.merge y) (x'.merge y'))
    (ha : Option.Rel Alike a a') (hb : Option.Rel Alike b b') :
    Option.Rel Alike (mergeMember a b) (mergeMember a' b') := by
  cases ha with
  | none =>
    cases hb with
    | none => exact .none
    | some hy => exact .some hy.optional
  | some hx =>
    cases hb with
    | none => exact .some hx.optional
    | some hy => exact .some (ih _ rfl _ _ _ hx hy)

/-- **Being alike survives merging.** -/
theorem merge {s s' t t' : Shape} (hs : Alike s s') (ht : Alike t t') :
    Alike (s.merge t) (s'.merge t') := by
  induction s using reading_induction generalizing s' t t' with
  | node s ihElement ihMember =>
    obtain ⟨hp, hc, he, hm, hn⟩ := hs
    obtain ⟨hp', hc', he', hm', hn'⟩ := ht
    refine ⟨?_, ?_, ?_, ?_, fun name => ?_⟩
    · rw [primitives_merge, primitives_merge, hp, hp']
    · rw [classes_merge, classes_merge, hc, hc']
    · rw [element_merge, element_merge]
      exact rel_merge? (fun x hx x' y y' => ihElement x hx) he he'
    · rw [isSome_members_merge, isSome_members_merge, hm, hm']
    · -- alike sides have objects in the same places, so both merges go by the same rule
      rw [lastMember?_merge, lastMember?_merge, hm, hm']
      split
      · exact rel_mergeMember (fun x hx x' y y' => ihMember name x hx) (hn name) (hn' name)
      · exact rel_or (hn name) (hn' name)

end Alike

/-! ## Order does not matter -/

theorem rel_mergeMember_comm {a b : Option Shape}
    (ih : ∀ x, a = some x → ∀ y, Alike (x.merge y) (y.merge x)) :
    Option.Rel Alike (mergeMember a b) (mergeMember b a) := by
  cases a with
  | none => cases b <;> exact rel_self fun x _ => .refl x
  | some x =>
    cases b with
    | none => exact .some (.refl _)
    | some y => exact .some (ih x rfl y)

/-- **Merging in either order** gives the same up to the order of members. -/
theorem merge_comm (s t : Shape) : Alike (s.merge t) (t.merge s) := by
  induction s using reading_induction generalizing t with
  | node s ihElement ihMember =>
    refine ⟨?_, ?_, ?_, ?_, fun name => ?_⟩
    · rw [primitives_merge, primitives_merge, Primitives.union_comm]
    · rw [classes_merge, classes_merge, Names.union_comm]
    · rw [element_merge, element_merge]
      exact rel_merge?_comm (fun x hx y => ihElement x hx y) .refl
    · rw [isSome_members_merge, isSome_members_merge, Bool.or_comm]
    · rw [lastMember?_merge, lastMember?_merge]
      by_cases hboth : s.members.isSome ∧ t.members.isSome
      · rw [if_pos hboth, if_pos hboth.symm]
        exact rel_mergeMember_comm fun x hx y => ihMember name x hx y
      · -- one side has no object, so its reading is empty in either place
        have hcomm : (s.lastMember? name).or (t.lastMember? name)
            = (t.lastMember? name).or (s.lastMember? name) := by
          by_cases hs : s.members.isSome
          · have ht : ¬t.members.isSome := fun ht => hboth ⟨hs, ht⟩
            rw [lastMember?_eq_none ht, Option.or_none, Option.none_or]
          · rw [lastMember?_eq_none hs, Option.or_none, Option.none_or]
        rw [if_neg hboth, if_neg fun h => hboth h.symm, hcomm]
        exact rel_self fun x _ => .refl x

/-- **Folding in any order** gives the same up to the order of members. -/
theorem alike_fold_of_perm {xs ys : List (Option Shape)} (h : xs.Perm ys) :
    Alike (fold xs) (fold ys) := by
  induction h with
  | nil => exact .refl _
  | cons x _ ih =>
    cases x with
    | none => exact ih
    | some s =>
      rw [fold_some_cons, fold_some_cons]
      exact (Alike.refl s).merge ih
  | swap x y rest =>
    -- an absent shape is passed over, and two shapes that are there are merged first
    cases x with
    | none => cases y <;> exact .refl _
    | some s =>
      cases y with
      | none => exact .refl _
      | some t =>
        simp only [fold_some_cons]
        rw [← merge_assoc, ← merge_assoc]
        exact (merge_comm t s).merge (.refl _)
  | trans _ _ ih ih' => exact ih.trans ih'

/-- **Folds and merges do not depend on order**, up to the order of members, and being alike is a
congruence for merging. -/
theorem fold_order_independent :
    (∀ xs ys : List (Option Shape), xs.Perm ys → Alike (fold xs) (fold ys)) ∧
    (∀ s t : Shape, Alike (s.merge t) (t.merge s)) ∧
    ∀ s s' t t' : Shape, Alike s s' → Alike t t' → Alike (s.merge t) (s'.merge t') :=
  ⟨fun _ _ => alike_fold_of_perm, merge_comm, fun _ _ _ _ => Alike.merge⟩

/-- An object. -/
def leftObject : Shape :=
  objectOf [("a", simple .null)]

/-- An object without a name in common with it. -/
def rightObject : Shape :=
  objectOf [("b", arrayOf empty)]

theorem fold_order_independent_of_two_objects :
    [some leftObject, none, some rightObject].Perm [some rightObject, none, some leftObject] ∧
    Alike (fold [some leftObject, none, some rightObject])
      (fold [some rightObject, none, some leftObject]) ∧
    Alike (leftObject.merge rightObject) (rightObject.merge leftObject) ∧
    Alike ((leftObject.merge rightObject).merge (named "A"))
      ((rightObject.merge leftObject).merge (named "A")) := by
  have hperm : [some leftObject, none, some rightObject].Perm
      [some rightObject, none, some leftObject] := by
    decide
  have hswap := fold_order_independent.2.1 leftObject rightObject
  exact ⟨hperm, fold_order_independent.1 _ _ hperm, hswap,
    fold_order_independent.2.2 _ _ _ _ hswap (.refl _)⟩

end Shape

end ShapeInference
