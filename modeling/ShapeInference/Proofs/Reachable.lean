import ShapeInference.Proofs.Alike
import ShapeInference.Proofs.Outcome

/-!
# Shapes that can be made

A shape is a list of members with names, and nothing in its form keeps a name from standing there
twice. Looking for a member takes the first entry of its name, merging takes the last one, so the
two would go apart. But no way to make shapes repeats a name: classification collapses keys with one
spelling, and merging collapses the names of both sides.

- `Shape.Reachable`: the shapes that can be made from values and from one another;
- `Shape.isDistinct_of_reachable`: none of them repeats a name at any depth;
- `Shape.member?_merge`: a member of a merge, where neither side repeats a name;
- `Shape.names_unique_and_lookups_agree`: so the two ways of looking for a member agree on whatever
  can be made, and merging is told member by member.
-/

namespace ShapeInference

namespace Shape

open Entries

/-- The shapes that can be made: by classifying a value, from a simple kind or the name of a class,
for arrays and for objects with different names, by merging, and by folding. -/
inductive Reachable : Shape → Prop where
  | classified {s : Strategy} {v : Value} {t : Shape} (h : (v.classify s).outcome = .ok t) :
      Reachable t
  | simple (p : Primitive) : Reachable (simple p)
  | named (name : Text) : Reachable (named name)
  | arrayOf {x : Shape} (hx : Reachable x) : Reachable (arrayOf x)
  | objectOf {ms : List (Text × Shape)} (hnames : (keys ms).Nodup)
      (hms : ∀ name x, (name, x) ∈ ms → Reachable x) : Reachable (objectOf ms)
  | merged {a b : Option Shape} {t : Shape} (ha : ∀ x, a = some x → Reachable x)
      (hb : ∀ y, b = some y → Reachable y) (h : merge? a b = some t) : Reachable t
  | folded {shapes : List (Option Shape)} (h : ∀ x, some x ∈ shapes → Reachable x) :
      Reachable (fold shapes)

/-! ## No name is repeated -/

/-- Merging shapes that may be absent repeats no name. -/
theorem isDistinct_merge? {a b : Option Shape} {t : Shape}
    (ha : ∀ x, a = some x → x.isDistinct = true) (hb : ∀ y, b = some y → y.isDistinct = true)
    (h : merge? a b = some t) : t.isDistinct = true := by
  cases a with
  | none =>
    rw [merge?_none_left] at h
    exact hb t h
  | some x =>
    cases b with
    | none =>
      rw [merge?_none_right] at h
      exact ha t h
    | some y =>
      obtain rfl : x.merge y = t := Option.some.inj h
      exact isDistinct_merge (ha x rfl) (hb y rfl)

/-- Folding shapes that may be absent repeats no name. -/
theorem isDistinct_fold_absent {shapes : List (Option Shape)}
    (h : ∀ x, some x ∈ shapes → x.isDistinct = true) : (fold shapes).isDistinct = true := by
  induction shapes with
  | nil => rfl
  | cons a rest ih =>
    have hrest := ih fun x hx => h x (List.mem_cons_of_mem a hx)
    cases a with
    | none =>
      rw [fold_none_cons]
      exact hrest
    | some x =>
      rw [fold_some_cons]
      exact isDistinct_merge (h x List.mem_cons_self) hrest

/-- **No name is repeated** in a shape that can be made, at any depth. -/
theorem isDistinct_of_reachable {s : Shape} (h : Reachable s) : s.isDistinct = true := by
  induction h with
  | classified h =>
    obtain ⟨-, rfl⟩ := Value.classify_ok_iff.mp h
    exact Value.isDistinct_shapeOf _
  | simple p => rfl
  | named name => rfl
  | arrayOf _ ih =>
    rw [isDistinct_iff]
    constructor
    · intro y hy
      obtain rfl := Option.some.inj hy
      exact ih
    · intro ms hms
      cases hms
  | objectOf hnames _ ih =>
    rw [isDistinct_iff]
    constructor
    · intro y hy
      cases hy
    · intro os hos
      obtain rfl := Option.some.inj hos
      exact ⟨hnames, ih⟩
  | merged _ _ h iha ihb => exact isDistinct_merge? iha ihb h
  | folded _ ih => exact isDistinct_fold_absent ih

/-! ## Members of a merge -/

section Members

variable {s t : Shape} {ms ns : List (Text × Shape)}

theorem merge_missing (s : Shape) : s.merge missing = s.optional := by
  unfold missing simple
  exact ext_parts (by simp [Primitives.union_insert]) (by simp) (by simp) (by simp)

/-- One member of a merge is there if either side has it, and a side that lacks it stands for
`undefined`. -/
theorem mergeMember_eq (a b : Option Shape) :
    mergeMember a b = if a = none ∧ b = none then none
      else some ((a.getD missing).merge (b.getD missing)) := by
  cases a <;> cases b <;> simp [mergeMember, missing_merge, merge_missing]

/-- Where no name is repeated, looking for the first member of a name is looking for the last. -/
theorem member?_eq_lastMember? (h : s.isDistinct = true) (name : Text) :
    s.member? name = s.lastMember? name :=
  member?_eq_last? h name

/-- **A member of a merge** of objects without repeated names. -/
theorem member?_merge (hs : s.isDistinct = true) (ht : t.isDistinct = true)
    (hms : s.members.isSome = true) (hns : t.members.isSome = true) (name : Text) :
    (s.merge t).member? name = mergeMember (s.member? name) (t.member? name) := by
  rw [member?_eq_lastMember? (isDistinct_merge hs ht), member?_eq_lastMember? hs,
    member?_eq_lastMember? ht, lastMember?_merge, if_pos ⟨hms, hns⟩]

end Members

/-- **Names stay unique and the two lookups agree**: whatever can be made repeats no name at any
depth, so the first member of a name is the last one. For two such shapes that both have objects, a
member of the merge is there exactly if one of them has it, and is the merge of what they have,
where a missing member counts as `undefined`. -/
theorem names_unique_and_lookups_agree :
    (∀ s, Reachable s →
      s.isDistinct = true ∧ ∀ name, s.member? name = s.lastMember? name) ∧
    ∀ a b, Reachable a → Reachable b → a.members.isSome = true → b.members.isSome = true →
      ∀ name,
        ((a.merge b).member? name = none ↔ a.member? name = none ∧ b.member? name = none) ∧
        (¬(a.member? name = none ∧ b.member? name = none) →
          (a.merge b).member? name
            = some (((a.member? name).getD missing).merge ((b.member? name).getD missing))) := by
  constructor
  · intro s hs
    have hdistinct := isDistinct_of_reachable hs
    exact ⟨hdistinct, member?_eq_lastMember? hdistinct⟩
  · intro a b ha hb hma hmb name
    have hmerge := member?_merge (isDistinct_of_reachable ha) (isDistinct_of_reachable hb) hma hmb
      name
    rw [mergeMember_eq] at hmerge
    by_cases hnone : a.member? name = none ∧ b.member? name = none
    · rw [if_pos hnone] at hmerge
      exact ⟨iff_of_true hmerge hnone, fun h => absurd hnone h⟩
    · rw [if_neg hnone] at hmerge
      refine ⟨iff_of_false ?_ hnone, fun _ => hmerge⟩
      rw [hmerge]
      exact Option.some_ne_none _

/-- A dictionary with two keys that are spelled alike. -/
def spelledAlike : Value :=
  .dictionary [(.null, .int 1), (.text "a", .list []), (.text "None", .bool true)]

theorem names_unique_and_lookups_agree_of_spelled_alike :
    (spelledAlike.classify .all).outcome
      = .ok (objectOf [("None", simple .boolean), ("a", arrayOf empty)]) ∧
    ((objectOf [("None", simple .boolean), ("a", arrayOf empty)]).merge
      (objectOf [("b", simple .null), ("None", simple .number)])).member? "None"
        = some ((simple .boolean).merge (simple .number)) := by
  have hclassify : (spelledAlike.classify .all).outcome
      = .ok (objectOf [("None", simple .boolean), ("a", arrayOf empty)]) := rfl
  have hobject : Reachable (objectOf [("b", simple .null), ("None", simple .number)]) := by
    refine .objectOf (by decide) fun name x hx => ?_
    simp only [List.mem_cons, List.not_mem_nil, or_false, Prod.mk.injEq] at hx
    rcases hx with ⟨-, rfl⟩ | ⟨-, rfl⟩
    · exact .simple .null
    · exact .simple .number
  obtain ⟨-, hmembers⟩ := names_unique_and_lookups_agree
  obtain ⟨-, hmerge⟩ := hmembers _ _ (.classified hclassify) hobject rfl rfl "None"
  exact ⟨hclassify, hmerge (fun h => by cases h.1)⟩

end Shape

end ShapeInference
