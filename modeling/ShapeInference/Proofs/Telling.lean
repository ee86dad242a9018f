import Mathlib.Data.List.TakeWhile
import ShapeInference.Text.Identifier

/-!
# Texts that tell things apart

Two things that are written one before the other can be taken apart again if the first one is told
by its own text. Whether it is depends on what can come after it: an identifier goes on until a code
point that cannot belong to it, and a list goes on as long as what comes next begins like a member.

- `Text.Tells`: texts for two things tell them apart, wherever what follows is allowed to;
- `Text.dropStart?_append`, `Text.eq_append_of_dropStart?`: a beginning is told by itself;
- `Text.append_inj_of_all`: code points of one kind are told by the first one of another kind;
- `Text.tells_flatMap`: lists are told by what tells their members;
- `Text.tells_identifier`: identifiers are told by what cannot belong to them.
-/

namespace ShapeInference

namespace Text

/-- Whether a text is at its end or goes on with one of some code points. -/
def GoesOnWith (starts t : Text) : Prop :=
  ∀ c ∈ t.head?, c ∈ starts

/-- Whether texts for two things tell them apart wherever `After` allows what follows: what is
written there is the same only if the things are, and then what follows is the same, too. -/
def Tells {α : Type} (After : Text → Prop) (a b : α) (t u : Text) : Prop :=
  ∀ rest rest', After rest → After rest' → t ++ rest = u ++ rest' → a = b ∧ rest = rest'

variable {α : Type} {After : Text → Prop} {a b : α} {t u rest rest' : Text}

theorem Tells.symm (h : Tells After a b t u) : Tells After b a u t := by
  intro rest rest' hrest hrest' heq
  obtain ⟨rfl, rfl⟩ := h rest' rest hrest' hrest heq.symm
  exact ⟨rfl, rfl⟩

theorem goesOnWith_cons {starts : Text} {c : CodePoint} :
    GoesOnWith starts (c :: t) ↔ c ∈ starts := by
  simp [GoesOnWith]

theorem GoesOnWith.mono {starts starts' : Text} (hsub : starts ⊆ starts')
    (h : GoesOnWith starts t) : GoesOnWith starts' t :=
  fun c hc => hsub (h c hc)

theorem takeWhile_append_of_all {p : CodePoint → Bool} (ht : t.all p = true)
    (hrest : ∀ c ∈ rest.head?, p c = false) : (t ++ rest).takeWhile p = t := by
  rw [List.takeWhile_append_of_pos (List.all_eq_true.mp ht)]
  cases rest with
  | nil => simp
  | cons c rest => simp [hrest c rfl]

theorem dropWhile_append_of_all {p : CodePoint → Bool} (ht : t.all p = true)
    (hrest : ∀ c ∈ rest.head?, p c = false) : (t ++ rest).dropWhile p = rest := by
  rw [List.dropWhile_append_of_pos (List.all_eq_true.mp ht)]
  cases rest with
  | nil => rfl
  | cons c rest => rw [List.dropWhile_cons, hrest c rfl, if_neg Bool.false_ne_true]

theorem dropStart?_append : ∀ start rest : Text, dropStart? start (start ++ rest) = some rest
  | [], _ => rfl
  | c :: start, rest => by
    rw [List.cons_append, dropStart?, if_pos rfl]
    exact dropStart?_append start rest

theorem eq_append_of_dropStart? : ∀ {start t rest : Text}, dropStart? start t = some rest →
    t = start ++ rest
  | [], t, rest, h => Option.some.inj h
  | b :: start, [], rest, h => by cases h
  | b :: start, c :: t, rest, h => by
    rw [dropStart?] at h
    split at h
    next hc => rw [hc, eq_append_of_dropStart? h, List.cons_append]
    next => cases h

/-- A text does not begin with another one if it begins otherwise. -/
theorem dropStart?_eq_none {start t : Text} {b c : CodePoint} (hstart : start.head? = some b)
    (hne : b ≠ c) : dropStart? start (c :: t) = none := by
  obtain ⟨start, rfl⟩ := List.head?_eq_some_iff.mp hstart
  rw [dropStart?, if_neg hne]

/-- Code points of one kind are told by the first one of another kind. -/
theorem append_inj_of_all {p : CodePoint → Bool} (ht : t.all p = true) (hu : u.all p = true)
    (hrest : ∀ c ∈ rest.head?, p c = false) (hrest' : ∀ c ∈ rest'.head?, p c = false)
    (h : t ++ rest = u ++ rest') : t = u ∧ rest = rest' := by
  obtain rfl : t = u := by
    rw [← takeWhile_append_of_all ht hrest, h, takeWhile_append_of_all hu hrest']
  exact ⟨rfl, List.append_cancel_left h⟩

/-- What follows a member is the next one or what follows the list. -/
theorem after_or_begins {Begins : Text → Prop} {w : α → Text} {xs : List α}
    (hw : ∀ x ∈ xs, ∀ rest, Begins (w x ++ rest)) (hrest : After rest) :
    After (xs.flatMap w ++ rest) ∨ Begins (xs.flatMap w ++ rest) := by
  cases xs with
  | nil => exact .inl hrest
  | cons x xs =>
    rw [List.flatMap_cons, List.append_assoc]
    exact .inr (hw x List.mem_cons_self _)

/-- **Lists are told by what tells their members**, if what follows a list begins otherwise. -/
theorem tells_flatMap (Begins : Text → Prop) {w w' : α → Text} {xs ys : List α}
    (hw : ∀ x ∈ xs, ∀ rest, Begins (w x ++ rest)) (hw' : ∀ y ∈ ys, ∀ rest, Begins (w' y ++ rest))
    (hend : ∀ rest, After rest → ¬Begins rest)
    (htells : ∀ x ∈ xs, ∀ y ∈ ys,
      Tells (fun rest => After rest ∨ Begins rest) x y (w x) (w' y)) :
    Tells After xs ys (xs.flatMap w) (ys.flatMap w') := by
  intro rest rest' hrest hrest' h
  induction xs generalizing ys with
  | nil =>
    cases ys with
    | nil => exact ⟨rfl, h⟩
    | cons y ys =>
      rw [List.flatMap_nil, List.nil_append, List.flatMap_cons, List.append_assoc] at h
      exact absurd (h ▸ hw' y List.mem_cons_self _) (hend rest hrest)
  | cons x xs ih =>
    cases ys with
    | nil =>
      rw [List.flatMap_nil, List.nil_append, List.flatMap_cons, List.append_assoc] at h
      exact absurd (h ▸ hw x List.mem_cons_self _) (hend rest' hrest')
    | cons y ys =>
      obtain ⟨hx, hxs⟩ := List.forall_mem_cons.mp hw
      obtain ⟨hy, hys⟩ := List.forall_mem_cons.mp hw'
      rw [List.flatMap_cons, List.flatMap_cons, List.append_assoc, List.append_assoc] at h
      obtain ⟨rfl, hrests⟩ := htells x List.mem_cons_self y List.mem_cons_self _ _
        (after_or_begins hxs hrest) (after_or_begins hys hrest') h
      obtain ⟨rfl, rfl⟩ := ih hxs hys (fun x hx y hy =>
        htells x (List.mem_cons_of_mem _ hx) y (List.mem_cons_of_mem _ hy)) hrests
      exact ⟨rfl, rfl⟩

/-- A list with a separator before each of its texts, instead of between them. -/
theorem append_join {separator : Text} : ∀ {ts : List Text}, ts ≠ [] →
    separator ++ join separator ts = ts.flatMap (separator ++ ·)
  | [_], _ => by simp [join]
  | t :: u :: ts, _ => by
    have hjoin : join separator (t :: u :: ts) = t ++ separator ++ join separator (u :: ts) := rfl
    rw [hjoin, List.append_assoc, append_join (List.cons_ne_nil u ts), ← List.append_assoc]
    exact (List.flatMap_cons ..).symm

/-! ## Identifiers -/

theorem all_of_isIdentifier (h : t.isIdentifier = true) :
    t.all CodePoint.continuesIdentifier = true := by
  cases t with
  | nil => cases h
  | cons c rest =>
    obtain ⟨hc, hrest⟩ := (Bool.and_eq_true _ _).mp h
    rw [List.all_cons, CodePoint.continuesIdentifier, hc, hrest]
    rfl

/-- An identifier begins with a letter or underscore. -/
theorem identifier_append_ne_cons {c : CodePoint} (h : t.isIdentifier = true)
    (hc : c.startsIdentifier = false) : t ++ rest ≠ c :: rest' := by
  cases t with
  | nil => cases h
  | cons d t =>
    intro heq
    obtain rfl : d = c := (List.cons.inj heq).1
    rw [isIdentifier, hc] at h
    cases h

theorem isIdentifier_of_isTypeName (h : t.isTypeName = true) : t.isIdentifier = true :=
  ((Bool.and_eq_true _ _).mp h).1

/-- **Identifiers are told** by the first code point that cannot belong to them. -/
theorem tells_identifier (starts : Text)
    (hstarts : starts.any CodePoint.continuesIdentifier = false) (ht : t.isIdentifier = true)
    (hu : u.isIdentifier = true) : Tells (GoesOnWith starts) t u t u := by
  have hstops : ∀ c ∈ starts, c.continuesIdentifier = false :=
    fun c hc => Bool.eq_false_iff.mpr (List.any_eq_false.mp hstarts c hc)
  intro rest rest' hrest hrest'
  exact append_inj_of_all (all_of_isIdentifier ht) (all_of_isIdentifier hu)
    (fun c hc => hstops c (hrest c hc)) (fun c hc => hstops c (hrest' c hc))

end Text

end ShapeInference
