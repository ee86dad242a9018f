import ShapeInference.Proofs.Except
import ShapeInference.Proofs.Literal
import ShapeInference.Proofs.Merge
import ShapeInference.Proofs.Telling
import ShapeInference.Request

/-!
# Declarations are unambiguous

Two declarations with the same text declare the same shape under the same name, however they were
laid out. Every part of a declaration is told by its own text and what can follow it: a bare name by
the colon, a quoted one by its last quote, an object by its braces. Whatever gaps stand before the
fields, they end where a field begins. For a union the argument is about its alternatives: a class
may share its name with the array type, but the bracket that follows tells them apart.

- `Declaration.tells_object`: objects are told by their fields;
- `Shape.isReadable`: classes are named by type names, and no member name writes a code point as two
  halves of a surrogate pair;
- `Shape.alternatives_inj`: a shape is told by its alternatives;
- `Shape.tells_writeAt`: a shape is told by its text;
- `Request.declare_ok_iff`: what a request for a declaration returns, and when;
- `Machine.HasRoom`: a machine has room for a text;
- `Request.write_ok_iff`, `Request.declare_ok_iff_hasRoom`: what is returned if there is room;
- `Declaration.text_determines_name_and_shape`: a declaration is told by its text.
-/

namespace ShapeInference

/-! ## Objects -/

namespace Declaration

open Text

/-- **Property names are told** by the colon that follows. -/
theorem tells_property {n m : Text} (hn : n.isUnpaired = true) (hm : m.isUnpaired = true) :
    Tells (GoesOnWith ":") n m (property n) (property m) := by
  have hbracket : CodePoint.startsIdentifier '[' = false := by decide
  have hcolon : (":" : Text).any CodePoint.continuesIdentifier = false := by decide
  intro rest rest' hrest hrest' h
  unfold property at h
  split at h <;> split at h
  next hn' hm' => exact tells_identifier ":" hcolon hn' hm' rest rest' hrest hrest' h
  next hn' _ => exact absurd h (identifier_append_ne_cons hn' hbracket)
  next _ hm' => exact absurd h.symm (identifier_append_ne_cons hm' hbracket)
  next =>
    simp only [List.append_assoc, List.append_cancel_left_eq] at h
    obtain ⟨rfl, hrests⟩ := Literal.write_append_inj hn hm h
    exact ⟨rfl, List.append_cancel_left hrests⟩

theorem field_eq (name written : Text) : field name written
    = property name ++ (':' : CodePoint) :: ' ' :: (written ++ [(';' : CodePoint)]) := by
  simp only [field, List.append_assoc]
  rfl

/-- Fields are told if their names and their shapes are. -/
theorem tells_field {α : Type} {n m t u : Text} {a b : α} (hn : n.isUnpaired = true)
    (hm : m.isUnpaired = true) (h : Tells (GoesOnWith ">;") a b t u) :
    Tells (fun _ => True) (n, a) (m, b) (field n t) (field m u) := by
  intro rest rest' _ _ heq
  have hcolon : ∀ r, GoesOnWith ":" (':' :: r) := fun r => goesOnWith_cons.mpr (by decide)
  have hsemicolon : ∀ r, GoesOnWith ">;" (';' :: r) := fun r => goesOnWith_cons.mpr (by decide)
  simp only [field_eq, List.append_assoc, List.cons_append, List.nil_append] at heq
  obtain ⟨rfl, hwritten⟩ := tells_property hn hm _ _ (hcolon _) (hcolon _) heq
  obtain ⟨rfl, hrests⟩ := h _ _ (hsemicolon _) (hsemicolon _)
    (List.cons.inj (List.cons.inj hwritten).2).2
  exact ⟨rfl, (List.cons.inj hrests).2⟩

/-- Whether a text begins as a field does: with an identifier or a bracket. -/
def startsField : Text → Bool
  | [] => false
  | c :: _ => c.startsIdentifier || c = '['

theorem startsField_append {t : Text} (h : startsField t = true) (rest : Text) :
    startsField (t ++ rest) = true := by
  cases t with
  | nil => cases h
  | cons c t => exact h

theorem startsField_field (name written : Text) : startsField (field name written) = true := by
  rw [field_eq]
  refine startsField_append ?_ _
  unfold property
  split
  next h =>
    cases name with
    | nil => cases h
    | cons c rest => rw [startsField, ((Bool.and_eq_true _ _).mp h).1, Bool.true_or]
  next => rfl

/-- Neither a line end nor a space begins a field. -/
theorem isAsciiBlank_head_of_startsField {t : Text} (h : startsField t = true) :
    ∀ c ∈ t.head?, c.isAsciiBlank = false := by
  cases t with
  | nil => cases h
  | cons c t =>
    intro d hd
    obtain rfl : c = d := Option.some.inj hd
    simp only [startsField, CodePoint.startsIdentifier, Bool.or_eq_true, decide_eq_true_eq] at h
    rcases h with (h | rfl) | rfl
    · simp only [CodePoint.isLetter, Bool.or_eq_true, Bool.and_eq_true, decide_eq_true_eq] at h
      simp only [CodePoint.isAsciiBlank, Bool.or_eq_false_iff, Bool.and_eq_false_iff,
        decide_eq_false_iff_not]
      omega
    · decide
    · decide

/-- Whether a text begins as a field does, after a gap that may be empty. -/
def StartsFieldAfterGap (t : Text) : Prop :=
  ∃ gap rest, gap.all CodePoint.isAsciiBlank = true ∧ t = gap ++ rest ∧ startsField rest = true

/-- Whether a text begins with the last brace of an object, after a gap that may be empty. -/
def ClosesAfterGap (t : Text) : Prop :=
  ∃ gap rest, gap.all CodePoint.isAsciiBlank = true ∧ t = gap ++ ('}' : CodePoint) :: rest

theorem isAsciiBlank_head_of_brace (rest : Text) :
    ∀ c ∈ List.head? (('}' : CodePoint) :: rest), c.isAsciiBlank = false := by
  intro c hc
  obtain rfl : '}' = c := Option.some.inj hc
  decide

/-- Behind a gap there is either the next field or the last brace. -/
theorem not_startsFieldAfterGap {t : Text} (h : ClosesAfterGap t) : ¬StartsFieldAfterGap t := by
  obtain ⟨gap, rest, hgap, rfl⟩ := h
  rintro ⟨gap', rest', hgap', heq, hstarts⟩
  obtain ⟨-, rfl⟩ := append_inj_of_all hgap hgap' (isAsciiBlank_head_of_brace rest)
    (isAsciiBlank_head_of_startsField hstarts) heq
  cases hstarts

/-- Fields are told behind gaps, too. -/
theorem tells_after_gap {α : Type} {After : Text → Prop} {a b : α} {gap gap' t u : Text}
    (hgap : gap.all CodePoint.isAsciiBlank = true) (hgap' : gap'.all CodePoint.isAsciiBlank = true)
    (ht : startsField t = true) (hu : startsField u = true) (h : Tells (fun _ => True) a b t u) :
    Tells After a b (gap ++ t) (gap' ++ u) := by
  intro rest rest' _ _ heq
  rw [List.append_assoc, List.append_assoc] at heq
  obtain ⟨-, hfield⟩ := append_inj_of_all hgap hgap'
    (isAsciiBlank_head_of_startsField (startsField_append ht rest))
    (isAsciiBlank_head_of_startsField (startsField_append hu rest')) heq
  exact h rest rest' trivial trivial hfield

/-- A line feed and a margin. -/
def lineBreak (width : Nat) : Text :=
  '\n' :: spaces width

theorem object_nil (indent level : Nat) : object indent level [] = "\x7b\x7d" := by
  unfold object
  split <;> rfl

/-- An object literal with its fields on lines of their own has a break before each of them and
before the last brace. -/
theorem object_lines {indent : Nat} (level : Nat) {fields : List Text} (hindent : 0 < indent)
    (hfields : fields ≠ []) : object indent level fields
      = ('{' : CodePoint) :: (fields.flatMap (lineBreak (indent * (level + 1)) ++ ·)
          ++ (lineBreak (indent * level) ++ ("\x7d" : Text))) := by
  have hjoin : ("\n" : Text) ++ join "\n" (fields.map (spaces (indent * (level + 1)) ++ ·))
      = (fields.map (spaces (indent * (level + 1)) ++ ·)).flatMap (("\n" : Text) ++ ·) :=
    append_join (by simpa using hfields)
  have hempty : ¬fields.isEmpty = true := mt List.isEmpty_iff.mp hfields
  rw [List.flatMap_map] at hjoin
  unfold object
  rw [if_neg (Nat.ne_of_gt hindent), if_neg hempty]
  simp only [List.append_assoc] at hjoin ⊢
  exact congrArg (fun t => ('{' : CodePoint) :: (t ++ _)) hjoin

/-- An object literal, laid out in one way or another, is its fields between braces, all with the
same gap before them. -/
theorem object_eq (indent level : Nat) (fields : List Text) : ∃ gap last : Text,
    gap.all CodePoint.isAsciiBlank = true ∧ last.all CodePoint.isAsciiBlank = true ∧
      object indent level fields
        = ('{' : CodePoint) :: (fields.flatMap (gap ++ ·) ++ last ++ ("\x7d" : Text)) := by
  have hbreak : ∀ n, (lineBreak n).all CodePoint.isAsciiBlank = true := by
    intro n
    have hspace : CodePoint.isAsciiBlank ' ' = true := by decide
    have hnewline : CodePoint.isAsciiBlank '\n' = true := by decide
    rw [lineBreak, List.all_cons, spaces, List.all_replicate, hspace, hnewline, ite_self]
    rfl
  by_cases hindent : indent = 0
  · subst hindent
    exact ⟨[], [], rfl, rfl, by simp [object]; rfl⟩
  · by_cases hfields : fields = []
    · subst hfields
      exact ⟨[], [], rfl, rfl, object_nil indent level⟩
    · refine ⟨lineBreak (indent * (level + 1)), lineBreak (indent * level), hbreak _, hbreak _, ?_⟩
      rw [object_lines level (Nat.pos_of_ne_zero hindent) hfields, List.append_assoc]

/-- **Objects are told by their fields**, in whatever way they are laid out. -/
theorem tells_object {α : Type} {i j k l : Nat} {w w' : α → Text} {xs ys : List α}
    (hw : ∀ x ∈ xs, startsField (w x) = true) (hw' : ∀ y ∈ ys, startsField (w' y) = true)
    (h : ∀ x ∈ xs, ∀ y ∈ ys, Tells (fun _ => True) x y (w x) (w' y)) :
    Tells (fun _ => True) xs ys (object i k (xs.map w)) (object j l (ys.map w')) := by
  obtain ⟨gap, last, hgap, hlast, htext⟩ := object_eq i k (xs.map w)
  obtain ⟨gap', last', hgap', hlast', htext'⟩ := object_eq j l (ys.map w')
  have hfields : Tells ClosesAfterGap xs ys (xs.flatMap (gap ++ w ·)) (ys.flatMap (gap' ++ w' ·)) :=
    tells_flatMap StartsFieldAfterGap
      (fun x hx rest => ⟨gap, _, hgap, List.append_assoc .., startsField_append (hw x hx) rest⟩)
      (fun y hy rest => ⟨gap', _, hgap', List.append_assoc .., startsField_append (hw' y hy) rest⟩)
      (fun _ => not_startsFieldAfterGap)
      (fun x hx y hy => tells_after_gap hgap hgap' (hw x hx) (hw' y hy) (h x hx y hy))
  intro rest rest' _ _ heq
  rw [htext, htext', List.flatMap_map, List.flatMap_map] at heq
  simp only [List.cons_append, List.cons.injEq, true_and, List.append_assoc] at heq
  obtain ⟨rfl, hlasts⟩ := hfields _ _ ⟨last, rest, hlast, rfl⟩ ⟨last', rest', hlast', rfl⟩ heq
  obtain ⟨-, hbraces⟩ := append_inj_of_all hlast hlast' (isAsciiBlank_head_of_brace rest)
    (isAsciiBlank_head_of_brace rest') hlasts
  exact ⟨rfl, (List.cons.inj hbraces).2⟩

end Declaration

/-! ## Shapes -/

namespace Shape

open Declaration Text

mutual

/-- Whether a shape is told by its text: all classes are named by type names, and no member name
writes a code point as two halves of a surrogate pair. -/
def isReadable : Shape → Bool
  | node _ c e m =>
    c.toList.all isTypeName
      && (match e with
        | none => true
        | some x => isReadable x)
      && match m with
        | none => true
        | some ms => areReadable ms

/-- Whether this holds of the names and shapes of all members. -/
def areReadable : List (Text × Shape) → Bool
  | [] => true
  | (name, s) :: ms => name.isUnpaired && isReadable s && areReadable ms

end

theorem areReadable_iff : ∀ {ms : List (Text × Shape)}, areReadable ms = true ↔
    ∀ name x, (name, x) ∈ ms → name.isUnpaired = true ∧ x.isReadable = true
  | [] => by simp [areReadable]
  | (name, s) :: ms => by
    rw [areReadable, Bool.and_eq_true, Bool.and_eq_true, areReadable_iff, Entries.forall_mem_cons]

theorem isReadable_iff {s : Shape} : s.isReadable = true ↔
    (∀ c ∈ s.classes.toList, c.isTypeName = true) ∧
    (∀ x, s.element = some x → x.isReadable = true) ∧
    ∀ ms, s.members = some ms →
      ∀ name x, (name, x) ∈ ms → name.isUnpaired = true ∧ x.isReadable = true := by
  obtain ⟨p, c, e, m⟩ := s
  cases e <;> cases m <;> simp [isReadable, areReadable_iff, and_assoc]

/-- What stands between two bars of a union. -/
inductive Alternative where
  /-- The arrays with elements of a shape. -/
  | array (element : Shape)
  /-- A class or a simple kind, by its name. -/
  | word (name : Text)
  /-- The objects with some members. -/
  | object (members : List (Text × Shape))

namespace Alternative

/-- An alternative at a nesting level. -/
def write (indent level : Nat) : Alternative → Text
  | array x => ("Array<" : Text) ++ x.writeAt indent level ++ (">" : Text)
  | word name => name
  | object ms => Declaration.object indent level (writeFields indent level ms)

/-- The elements, if it is for arrays. -/
def element? : Alternative → Option Shape
  | array x => some x
  | _ => none

/-- The members, if it is for objects. -/
def members? : Alternative → Option (List (Text × Shape))
  | object ms => some ms
  | _ => none

/-- The name, if it is for a class. -/
def class? : Alternative → Option Text
  | word name => if name.isTypeName then some name else none
  | _ => none

/-- The kind, if it is for simple values. -/
def primitive? : Alternative → Option Primitive
  | word name => Primitive.ofName? name
  | _ => none

end Alternative

/-- The parts of a shape in the order in which they are written. -/
def parts (s : Shape) : List Alternative :=
  s.element.toList.map .array ++ s.classes.toList.map .word
    ++ s.primitives.toList.map (fun p => .word p.name) ++ s.members.toList.map .object

/-- The alternatives of a shape, one of which there must be. -/
def alternatives (s : Shape) : List Alternative :=
  if s.parts.isEmpty then [.word "unknown"] else s.parts

theorem alternatives_ne_nil (s : Shape) : s.alternatives ≠ [] := by
  unfold alternatives
  split
  next => exact List.cons_ne_nil _ _
  next h => exact fun hnil => h (List.isEmpty_iff.mpr hnil)

theorem writeFields_eq (indent level : Nat) (ms : List (Text × Shape)) :
    writeFields indent level ms = ms.map fun m => field m.1 (m.2.writeAt indent (level + 1)) := by
  induction ms with
  | nil => rfl
  | cons m ms ih => rw [writeFields, ih, List.map_cons]

/-- The text of a shape is that of its alternatives. -/
theorem writeAt_eq (indent level : Nat) (s : Shape) : s.writeAt indent level
    = join " | " (s.alternatives.map (Alternative.write indent level)) := by
  have hparts : s.writeAt indent level = union (s.parts.map (Alternative.write indent level)) := by
    obtain ⟨p, c, e, m⟩ := s
    rw [writeAt.eq_def]
    cases e <;> cases m <;>
      simp [parts, element, classes, primitives, members, Alternative.write, Function.comp_def]
  rw [hparts, union, List.isEmpty_map, alternatives]
  split
  next => rfl
  next => rfl

/-! ## A shape is told by its alternatives -/

theorem isTypeName_name (p : Primitive) : p.name.isTypeName = false := by
  cases p <;> decide

theorem ofName?_name (p : Primitive) : Primitive.ofName? p.name = some p := by
  cases p <;> decide

theorem ofName?_of_isTypeName {name : Text} (h : name.isTypeName = true) :
    Primitive.ofName? name = none := by
  rw [Primitive.ofName?, List.find?_eq_none]
  rintro p - hp
  obtain rfl := of_decide_eq_true hp
  rw [isTypeName_name] at h
  cases h

theorem filterMap_alternatives {β : Type} (f : Alternative → Option β)
    (hf : f (.word "unknown") = none) (s : Shape) :
    s.alternatives.filterMap f = s.parts.filterMap f := by
  unfold alternatives
  split
  next h =>
    rw [List.isEmpty_iff.mp h, List.filterMap_cons, hf]
  next => rfl

theorem filterMap_element? (s : Shape) :
    s.alternatives.filterMap Alternative.element? = s.element.toList := by
  rw [filterMap_alternatives _ rfl]
  simp [parts, List.filterMap_append, List.filterMap_map, Function.comp_def, Alternative.element?]

theorem filterMap_members? (s : Shape) :
    s.alternatives.filterMap Alternative.members? = s.members.toList := by
  rw [filterMap_alternatives _ rfl]
  simp [parts, List.filterMap_append, List.filterMap_map, Function.comp_def, Alternative.members?]

theorem filterMap_class? {s : Shape} (hs : s.isReadable = true) :
    s.alternatives.filterMap Alternative.class? = s.classes.toList := by
  have hclasses : s.classes.toList.filterMap (fun name => Alternative.class? (.word name))
      = s.classes.toList.filterMap some :=
    List.filterMap_congr fun name hname => if_pos ((isReadable_iff.mp hs).1 name hname)
  rw [filterMap_alternatives _ (by decide)]
  simp only [parts, List.filterMap_append, List.filterMap_map, Function.comp_def, hclasses]
  simp [Alternative.class?, isTypeName_name]

theorem filterMap_primitive? {s : Shape} (hs : s.isReadable = true) :
    s.alternatives.filterMap Alternative.primitive? = s.primitives.toList := by
  have hclasses : s.classes.toList.filterMap (fun name => Alternative.primitive? (.word name))
      = s.classes.toList.filterMap fun _ => none :=
    List.filterMap_congr fun name hname =>
      ofName?_of_isTypeName ((isReadable_iff.mp hs).1 name hname)
  rw [filterMap_alternatives _ (by decide)]
  simp only [parts, List.filterMap_append, List.filterMap_map, Function.comp_def, hclasses]
  simp [Alternative.primitive?, ofName?_name]

theorem primitives_eq_of_toList {a b : Primitives} (h : a.toList = b.toList) : a = b := by
  have hmem : ∀ (c : Primitives) (p : Primitive), p ∈ c.toList ↔ c.contains p = true := by
    intro c p
    cases p <;> simp [Primitives.toList, Primitive.all]
  refine Primitives.ext_contains fun p => ?_
  rw [Bool.eq_iff_iff, ← hmem, ← hmem, h]

/-- **A shape is told by its alternatives**, since no class has the name of a simple kind. -/
theorem alternatives_inj {s t : Shape} (hs : s.isReadable = true) (ht : t.isReadable = true)
    (h : s.alternatives = t.alternatives) : s = t := by
  refine ext_parts ?_ ?_ ?_ ?_
  · have hlists := congrArg (List.filterMap Alternative.primitive?) h
    rw [filterMap_primitive? hs, filterMap_primitive? ht] at hlists
    exact primitives_eq_of_toList hlists
  · have hlists := congrArg (List.filterMap Alternative.class?) h
    rw [filterMap_class? hs, filterMap_class? ht] at hlists
    exact Names.ext hlists
  · have hheads := congrArg (fun l => (l.filterMap Alternative.element?).head?) h
    simpa only [filterMap_element?, Option.head?_toList] using hheads
  · have hheads := congrArg (fun l => (l.filterMap Alternative.members?).head?) h
    simpa only [filterMap_members?, Option.head?_toList] using hheads

/-! ## Alternatives are told by their texts -/

section Alternatives

variable {s : Shape} {x y : Shape} {name : Text} {ms ns : List (Text × Shape)}

theorem element_of_mem (h : .array x ∈ s.alternatives) : s.element = some x := by
  have hmem : x ∈ s.alternatives.filterMap Alternative.element? :=
    List.mem_filterMap.mpr ⟨_, h, rfl⟩
  rwa [filterMap_element?, Option.mem_toList] at hmem

theorem members_of_mem (h : .object ms ∈ s.alternatives) : s.members = some ms := by
  have hmem : ms ∈ s.alternatives.filterMap Alternative.members? :=
    List.mem_filterMap.mpr ⟨_, h, rfl⟩
  rwa [filterMap_members?, Option.mem_toList] at hmem

/-- A word stands for a class or for a simple kind, or says that nothing is known. -/
theorem word_of_mem (h : .word name ∈ s.alternatives) :
    name ∈ s.classes.toList ∨ (∃ p : Primitive, p.name = name) ∨ name = "unknown" := by
  unfold alternatives at h
  split at h
  next => exact .inr (.inr (Alternative.word.inj (List.mem_singleton.mp h)))
  next =>
    simp only [parts, List.mem_append, List.mem_map, reduceCtorEq, and_false, exists_false,
      false_or, or_false, Alternative.word.injEq, exists_eq_right] at h
    rcases h with h | ⟨p, -, hp⟩
    · exact .inl h
    · exact .inr (.inl ⟨p, hp⟩)

theorem isIdentifier_name (p : Primitive) : p.name.isIdentifier = true := by
  cases p <;> decide

theorem isIdentifier_of_mem (hs : s.isReadable = true) (h : .word name ∈ s.alternatives) :
    name.isIdentifier = true := by
  rcases word_of_mem h with hclass | ⟨p, rfl⟩ | rfl
  · exact isIdentifier_of_isTypeName ((isReadable_iff.mp hs).1 name hclass)
  · exact isIdentifier_name p
  · decide

namespace Alternative

variable {After : Text → Prop} {i j k l : Nat}

theorem write_array (i k : Nat) (x : Shape) : (array x).write i k
    = ("Array" : Text) ++ ('<' : CodePoint) :: (x.writeAt i k ++ [('>' : CodePoint)]) := by
  simp only [write, List.append_assoc]
  rfl

theorem write_object (i k : Nat) (ms : List (Text × Shape)) :
    ∃ t, (object ms).write i k = ('{' : CodePoint) :: t := by
  obtain ⟨gap, last, -, -, htext⟩ := object_eq i k (writeFields i k ms)
  exact ⟨_, htext⟩

theorem tells_arrays (h : Tells (GoesOnWith ">;") x y (x.writeAt i k) (y.writeAt j l)) :
    Tells After (array x) (array y) ((array x).write i k) ((array y).write j l) := by
  have hbracket : ∀ r, GoesOnWith ">;" (('>' : CodePoint) :: r) :=
    fun r => goesOnWith_cons.mpr (by decide)
  intro rest rest' _ _ heq
  simp only [write_array, List.append_assoc, List.cons_append, List.nil_append] at heq
  obtain ⟨rfl, hrests⟩ := h _ _ (hbracket rest) (hbracket rest')
    (List.cons.inj (List.append_cancel_left heq)).2
  exact ⟨rfl, (List.cons.inj hrests).2⟩

/-- A class may be named as the array type is, but no bracket comes after it. -/
theorem tells_array_word (hname : name.isIdentifier = true) :
    Tells (GoesOnWith " >;") (array x) (word name) ((array x).write i k)
      ((word name).write j l) := by
  intro rest rest' _ hrest' heq
  rw [write_array, List.append_assoc] at heq
  obtain ⟨-, hrests⟩ := tells_identifier " <>;" (by decide) (by decide) hname _ _
    (goesOnWith_cons.mpr (by decide)) (hrest'.mono (by decide)) heq
  rw [← hrests] at hrest'
  exact absurd (goesOnWith_cons.mp hrest') (by decide)

theorem tells_array_object :
    Tells After (array x) (object ms) ((array x).write i k) ((object ms).write j l) := by
  intro rest rest' _ _ heq
  obtain ⟨t, ht⟩ := write_object j l ms
  rw [ht] at heq
  cases (List.cons.inj heq).1

theorem tells_word_object (hname : name.isIdentifier = true) :
    Tells After (word name) (object ms) ((word name).write i k) ((object ms).write j l) := by
  intro rest rest' _ _ heq
  obtain ⟨t, ht⟩ := write_object j l ms
  rw [ht] at heq
  exact absurd heq (identifier_append_ne_cons hname (by decide))

end Alternative

/-- **Alternatives are told** by their texts, if what they hold is. -/
theorem tells_alternative {i j k l : Nat} {a b : Alternative}
    (hword : ∀ name, a = .word name ∨ b = .word name → name.isIdentifier = true)
    (harray : ∀ x y, a = .array x → b = .array y →
      Tells (GoesOnWith ">;") x y (x.writeAt i k) (y.writeAt j l))
    (hobject : ∀ ms ns, a = .object ms → b = .object ns →
      Tells (fun _ => True) ms ns (object i k (writeFields i k ms))
        (object j l (writeFields j l ns))) :
    Tells (GoesOnWith " >;") a b (a.write i k) (b.write j l) := by
  cases a with
  | array x =>
    cases b with
    | array y => exact Alternative.tells_arrays (harray x y rfl rfl)
    | word name => exact Alternative.tells_array_word (hword name (.inr rfl))
    | object ns => exact Alternative.tells_array_object
  | word name =>
    have hname := hword name (.inl rfl)
    cases b with
    | array y => exact (Alternative.tells_array_word hname).symm
    | word name' =>
      intro rest rest' hrest hrest' heq
      obtain ⟨rfl, rfl⟩ := tells_identifier " >;" (by decide) hname (hword name' (.inr rfl))
        rest rest' hrest hrest' heq
      exact ⟨rfl, rfl⟩
    | object ns => exact Alternative.tells_word_object hname
  | object ms =>
    cases b with
    | array y => exact Alternative.tells_array_object.symm
    | word name => exact (Alternative.tells_word_object (hword name (.inr rfl))).symm
    | object ns =>
      intro rest rest' _ _ heq
      obtain ⟨rfl, rfl⟩ := hobject ms ns rfl rfl rest rest' trivial trivial heq
      exact ⟨rfl, rfl⟩

end Alternatives

/-! ## Shapes are told by their texts -/

/-- With one more bar before it, a union is its alternatives with a bar before each. -/
theorem bar_writeAt (indent level : Nat) (s : Shape) : (" | " : Text) ++ s.writeAt indent level
    = s.alternatives.flatMap fun a => (" | " : Text) ++ a.write indent level := by
  rw [writeAt_eq, append_join (by simpa using s.alternatives_ne_nil), List.flatMap_map]

/-- Whether a text begins as the bar between two alternatives does. -/
def StartsBar (t : Text) : Prop :=
  t.head? = some ((' ' : Char) : CodePoint)

theorem not_startsBar {rest : Text} (h : GoesOnWith ">;" rest) : ¬StartsBar rest :=
  fun hspace => absurd (h _ hspace) (by decide)

theorem goesOnWith_of_startsBar {rest : Text} (h : GoesOnWith ">;" rest ∨ StartsBar rest) :
    GoesOnWith " >;" rest := by
  rcases h with h | hspace
  · exact h.mono (by decide)
  · intro c hc
    obtain rfl : ' ' = c := Option.some.inj (hspace.symm.trans hc)
    decide

/-- Unions are told if their alternatives are. -/
theorem tells_union {i j k l : Nat} {s t : Shape} (hs : s.isReadable = true)
    (ht : t.isReadable = true)
    (h : ∀ a ∈ s.alternatives, ∀ b ∈ t.alternatives,
      Tells (GoesOnWith " >;") a b (a.write i k) (b.write j l)) :
    Tells (GoesOnWith ">;") s t (s.writeAt i k) (t.writeAt j l) := by
  have halternatives : Tells (GoesOnWith ">;") s.alternatives t.alternatives
      (s.alternatives.flatMap fun a => (" | " : Text) ++ a.write i k)
      (t.alternatives.flatMap fun b => (" | " : Text) ++ b.write j l) := by
    refine tells_flatMap StartsBar (fun _ _ _ => rfl) (fun _ _ _ => rfl)
      (fun _ => not_startsBar) fun a ha b hb rest rest' hrest hrest' heq => ?_
    rw [List.append_assoc, List.append_assoc] at heq
    exact h a ha b hb rest rest' (goesOnWith_of_startsBar hrest)
      (goesOnWith_of_startsBar hrest') (List.append_cancel_left heq)
  intro rest rest' hrest hrest' heq
  have hbars : (s.alternatives.flatMap fun a => (" | " : Text) ++ a.write i k) ++ rest
      = (t.alternatives.flatMap fun b => (" | " : Text) ++ b.write j l) ++ rest' := by
    rw [← bar_writeAt, ← bar_writeAt, List.append_assoc, List.append_assoc, heq]
  obtain ⟨hst, rfl⟩ := halternatives rest rest' hrest hrest' hbars
  exact ⟨alternatives_inj hs ht hst, rfl⟩

/-- **A shape is told by its text**, however it is laid out. -/
theorem tells_writeAt {s : Shape} (hs : s.isReadable = true) {t : Shape} (ht : t.isReadable = true)
    (i j k l : Nat) : Tells (GoesOnWith ">;") s t (s.writeAt i k) (t.writeAt j l) := by
  induction s using part_induction generalizing t k l with
  | node s ihElement ihMember =>
    obtain ⟨-, helement, hmembers⟩ := isReadable_iff.mp hs
    obtain ⟨-, helement', hmembers'⟩ := isReadable_iff.mp ht
    -- what the right shape is made of is not known, so every alternative of either side meets
    -- every one of the other; only arrays with arrays and objects with objects go a level deeper
    refine tells_union hs ht fun a ha b hb => tells_alternative ?_ ?_ ?_
    · rintro name (rfl | rfl)
      · exact isIdentifier_of_mem hs ha
      · exact isIdentifier_of_mem ht hb
    · rintro x y rfl rfl
      have hx := element_of_mem ha
      exact ihElement x hx (helement x hx) (helement' y (element_of_mem hb)) k l
    · rintro ms ns rfl rfl
      have hms := members_of_mem ha
      have hns := members_of_mem hb
      rw [writeFields_eq, writeFields_eq]
      refine tells_object (fun m _ => startsField_field _ _) (fun n _ => startsField_field _ _) ?_
      rintro ⟨name, x⟩ hx ⟨name', y⟩ hy
      obtain ⟨hname, hreadable⟩ := hmembers ms hms name x hx
      obtain ⟨hname', hreadable'⟩ := hmembers' ns hns name' y hy
      exact tells_field hname hname'
        (ihMember ms name x hms hx hreadable hreadable' (k + 1) (l + 1))

end Shape

/-! ## Declarations are told by their texts -/

/-- A machine has room for the text of a shape with an indent: it runs out of nothing, and no margin
is too wide to be counted. -/
structure Machine.HasRoom (machine : Machine) (s : Shape) (indent : Nat) : Prop where
  enough : machine.writing s indent = none
  counted : ∀ width ∈ s.margins indent, width ≤ maxLength

namespace Request

variable {machine : Machine}

theorem checkName_ok_iff {v : Value} {n m : Text} :
    checkName v n = .ok m ↔ n.isTypeName = true ∧ m = n := by
  unfold checkName
  split
  next h => simp [h, eq_comm]
  next h => cases hshown : v.shown <;> simp [h, Except.bind]

/-- **What is declared** is the shape as it is written with the indent that was asked for, if all
checks pass. -/
theorem declare_ok_iff {s : Shape} {n x : Text} {v : Value} :
    declare machine (.shape s) (.text n) v = .ok x ↔ n.isTypeName = true ∧ ∃ k i, indent v = .ok k ∧
      checkIndent v k = .ok i ∧ checkRoom machine s i = .ok () ∧ Declaration.write s n i = x := by
  simp only [declare, shape, name, Value.asText?, Except.bind_ok_iff, checkName_ok_iff,
    Except.ok.injEq, exists_eq_left', pure, Except.pure]
  constructor
  · rintro ⟨k, hk, _, ⟨hn, rfl⟩, i, hi, ⟨⟩, hroom, hx⟩
    exact ⟨hn, k, i, hk, hi, hroom, hx⟩
  · rintro ⟨hn, k, i, hk, hi, hroom, hx⟩
    exact ⟨k, hk, n, ⟨hn, rfl⟩, i, hi, (), hroom, hx⟩

theorem checkRoom_ok_iff {s : Shape} {indent : Nat} :
    checkRoom machine s indent = .ok () ↔ machine.HasRoom s indent := by
  unfold checkRoom
  cases hwriting : machine.writing s indent with
  | some shortage =>
    refine iff_of_false nofun fun hroom => ?_
    cases hwriting.symm.trans hroom.enough
  | none =>
    dsimp only
    rw [Except.forM_ok_iff]
    constructor
    · intro hpass
      refine ⟨hwriting, fun width hwidth => Nat.not_lt.mp fun hwide => ?_⟩
      have hfails := hpass width hwidth
      rw [if_pos hwide] at hfails
      cases hfails
    · exact fun hroom width hwidth => if_neg (Nat.not_lt.mpr (hroom.counted width hwidth))

theorem checkIndent_natCast (v : Value) (n : Nat) : checkIndent v n = .ok n :=
  rfl

/-- **What is written** on request is the shape as it is written with the indent that was asked for,
if the machine has room for it. -/
theorem write_ok_iff {s : Shape} {x : Text} {v : Value} {n : Nat} (hv : indent v = .ok n) :
    write machine (.shape s) v = .ok x ↔ machine.HasRoom s n ∧ x = s.write n := by
  simp only [write, shape, hv, checkIndent_natCast, Except.bind_ok_iff, Except.ok.injEq,
    exists_eq_left', pure, Except.pure]
  rw [← checkRoom_ok_iff]
  constructor
  · rintro ⟨⟨⟩, hroom, hx⟩
    exact ⟨hroom, hx.symm⟩
  · rintro ⟨hroom, hx⟩
    exact ⟨(), hroom, hx.symm⟩

/-- A shape is declared with an indent exactly if the machine has room for it. -/
theorem declare_ok_iff_hasRoom {s : Shape} {n x : Text} {v : Value} {i : Nat}
    (hn : n.isTypeName = true) (hv : indent v = .ok i) :
    declare machine (.shape s) (.text n) v = .ok x ↔
      machine.HasRoom s i ∧ x = Declaration.write s n i := by
  rw [declare_ok_iff, and_iff_right hn, hv, ← checkRoom_ok_iff]
  constructor
  · rintro ⟨k, j, hk, hj, hroom, hx⟩
    obtain rfl := Except.ok.inj hk
    rw [checkIndent_natCast] at hj
    obtain rfl := Except.ok.inj hj
    exact ⟨hroom, hx.symm⟩
  · rintro ⟨hroom, hx⟩
    exact ⟨i, i, rfl, checkIndent_natCast v i, hroom, hx.symm⟩

end Request

namespace Declaration

open Text

theorem write_eq (s : Shape) (name : Text) (indent : Nat) : write s name indent
    = ("type " : Text) ++ (name ++ (' ' : CodePoint) :: '=' :: ' ' ::
      (s.writeAt indent 0 ++ [(';' : CodePoint)])) := by
  simp only [write, Shape.write, List.append_assoc]
  rfl

theorem write_inj {s t : Shape} (hs : s.isReadable = true) (ht : t.isReadable = true) {n m : Text}
    (hn : n.isTypeName = true) (hm : m.isTypeName = true) {i j : Nat}
    (h : write s n i = write t m j) : n = m ∧ s = t := by
  have hspace : ∀ r, GoesOnWith " " (((' ' : Char) : CodePoint) :: r) :=
    fun r => goesOnWith_cons.mpr (by decide)
  have hsemicolon : GoesOnWith ">;" [((';' : Char) : CodePoint)] := goesOnWith_cons.mpr (by decide)
  rw [write_eq, write_eq] at h
  obtain ⟨rfl, hrests⟩ := tells_identifier " " (by decide) (isIdentifier_of_isTypeName hn)
    (isIdentifier_of_isTypeName hm) _ _ (hspace _) (hspace _) (List.append_cancel_left h)
  simp only [List.cons.injEq, true_and] at hrests
  exact ⟨rfl, (Shape.tells_writeAt hs ht i j 0 0 _ _ hsemicolon hsemicolon hrests).1⟩

/-- **Declarations are unambiguous**: whether written with any indents or declared on request with
any indentations, by one machine or by two, equal texts have equal names and equal shapes. -/
theorem text_determines_name_and_shape {s t : Shape} (hs : s.isReadable = true)
    (ht : t.isReadable = true) {n m : Text} (hn : n.isTypeName = true) (hm : m.isTypeName = true) :
    (∀ i j, write s n i = write t m j → n = m ∧ s = t) ∧
    ∀ machine machine' v w x, Request.declare machine (.shape s) (.text n) v = .ok x →
      Request.declare machine' (.shape t) (.text m) w = .ok x → n = m ∧ s = t := by
  refine ⟨fun i j h => write_inj hs ht hn hm h, fun machine machine' v w x hx hx' => ?_⟩
  obtain ⟨-, -, i, -, -, -, hi⟩ := Request.declare_ok_iff.mp hx
  obtain ⟨-, -, j, -, -, -, hj⟩ := Request.declare_ok_iff.mp hx'
  exact write_inj hs ht hn hm (hi.trans hj.symm)

/-- An object with a member whose name looks like the end of a field. -/
def quotedMember : Shape :=
  .objectOf [("\"\x7d;", .simple .string)]

theorem text_determines_name_and_shape_of_merged_shapes :
    ((Shape.arrayOf quotedMember).merge (.named "Array")).isReadable = true ∧
    ((Shape.named "Array").merge (.arrayOf quotedMember)).isReadable = true ∧
    Text.isTypeName "Rows" = true ∧
    Request.declare .boundless (.shape ((Shape.arrayOf quotedMember).merge (.named "Array")))
        (.text "Rows") .null = .ok "type Rows = Array<\x7b[\"\\\"\x7d;\"]: string;\x7d> | Array;" ∧
    Request.declare .boundless (.shape ((Shape.named "Array").merge (.arrayOf quotedMember)))
        (.text "Rows") (.int 0) = .ok "type Rows = Array<\x7b[\"\\\"\x7d;\"]: string;\x7d> | Array;" ∧
    (Shape.arrayOf quotedMember).merge (.named "Array")
      = (Shape.named "Array").merge (.arrayOf quotedMember) := by
  have hs : ((Shape.arrayOf quotedMember).merge (.named "Array")).isReadable = true := by decide
  have ht : ((Shape.named "Array").merge (.arrayOf quotedMember)).isReadable = true := by decide
  have hname : Text.isTypeName "Rows" = true := by decide
  have hleft : Request.declare .boundless
      (.shape ((Shape.arrayOf quotedMember).merge (.named "Array"))) (.text "Rows") .null
        = .ok "type Rows = Array<\x7b[\"\\\"\x7d;\"]: string;\x7d> | Array;" := rfl
  have hright : Request.declare .boundless
      (.shape ((Shape.named "Array").merge (.arrayOf quotedMember))) (.text "Rows") (.int 0)
        = .ok "type Rows = Array<\x7b[\"\\\"\x7d;\"]: string;\x7d> | Array;" := rfl
  have hequal := (text_determines_name_and_shape hs ht hname hname).2 _ _ _ _ _ hleft hright
  exact ⟨hs, ht, hname, hleft, hright, hequal.2⟩

end Declaration

end ShapeInference
