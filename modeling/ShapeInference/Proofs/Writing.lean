import ShapeInference.Proofs.Declaration

/-!
# What holds of everything that is written

Whatever is written of a shape is put together from a few kinds of pieces: the names of classes,
property names, and words and marks in plain ASCII. They are put one after the other, or they become
the fields of an object. So what holds of the pieces, and is kept by both ways to put them together,
holds of every text. It may be said of one layout, or of two layouts of the same shape side by side.

- `CodePoint.isPlain`: what stands in a declaration apart from names, quotes and braces;
- `CodePoint.isInline`, `Text.isWritable`: what can stand in a line, and in the lines of a file;
- `Shape.namesOnly`: whether all classes that a shape names at any depth pass a test;
- `Declaration.Composes`: what goes from the pieces of a declaration to the whole;
- `Declaration.Composes.writeAt`: it holds of every shape as it is written;
- `Declaration.composes_isWritable`: one such thing is that a text can be written to a file.
-/

namespace ShapeInference

/-! ## Plain text -/

/-- Whether a code point is printable ASCII and neither a double quote nor a brace. -/
def CodePoint.isPlain (c : CodePoint) : Bool :=
  0x20 ≤ c.val && c.val ≤ 0x7E && c ≠ '"' && c ≠ '{' && c ≠ '}'

/-- What can be in an identifier is nothing that cannot. -/
theorem CodePoint.ne_of_continuesIdentifier {c d : CodePoint} (hc : c.continuesIdentifier = true)
    (hd : d.continuesIdentifier = false) : c ≠ d := by
  rintro rfl
  rw [hc] at hd
  cases hd

/-- What can be in an identifier is plain. -/
theorem CodePoint.isPlain_of_continuesIdentifier {c : CodePoint}
    (h : c.continuesIdentifier = true) : c.isPlain = true := by
  have hquote : c ≠ '"' := ne_of_continuesIdentifier h (by decide)
  have hopen : c ≠ '{' := ne_of_continuesIdentifier h (by decide)
  have hclose : c ≠ '}' := ne_of_continuesIdentifier h (by decide)
  have hrange : 0x20 ≤ c.val ∧ c.val ≤ 0x7E := by
    simp only [continuesIdentifier, startsIdentifier, isLetter, isDigit, Bool.or_eq_true,
      Bool.and_eq_true, decide_eq_true_iff] at h
    rcases h with (hletter | rfl) | hdigit
    · omega
    · decide
    · omega
  simp [isPlain, hquote, hopen, hclose, hrange]

theorem Text.isPlain_of_continues {t : Text} (h : t.all CodePoint.continuesIdentifier = true) :
    t.all CodePoint.isPlain = true := by
  refine List.all_eq_true.mpr fun c hc => ?_
  exact CodePoint.isPlain_of_continuesIdentifier (List.all_eq_true.mp h c hc)

/-- Identifiers are plain. -/
theorem Text.isPlain_of_isIdentifier {t : Text} (h : t.isIdentifier = true) :
    t.all CodePoint.isPlain = true :=
  isPlain_of_continues (all_of_isIdentifier h)

/-! ## What can stand in a line -/

/-- Whether a code point can stand in a line of a file: it is neither a control character below the
space nor half of a surrogate pair. -/
def CodePoint.isInline (c : CodePoint) : Bool :=
  0x20 ≤ c.val && !c.isSurrogate

/-- Whether a text can be written to a file: its lines hold only what can stand in a line. -/
def Text.isWritable (t : Text) : Bool :=
  t.all fun c => c = '\n' || c.isInline

theorem CodePoint.isInline_iff {c : CodePoint} :
    c.isInline = true ↔ 0x20 ≤ c.val ∧ c.isSurrogate = false := by
  simp [isInline]

theorem CodePoint.isInline_of_isPlain {c : CodePoint} (h : c.isPlain = true) :
    c.isInline = true := by
  simp only [isPlain, Bool.and_eq_true, decide_eq_true_iff] at h
  simp only [isInline, isSurrogate, Bool.and_eq_true, Bool.not_eq_true', Bool.and_eq_false_iff,
    decide_eq_true_iff, decide_eq_false_iff_not]
  omega

namespace Text

variable {t u : Text}

theorem isInline_of_isPlain (h : t.all CodePoint.isPlain = true) :
    t.all CodePoint.isInline = true :=
  List.all_eq_true.mpr fun c hc => CodePoint.isInline_of_isPlain (List.all_eq_true.mp h c hc)

theorem isWritable_of_isInline (h : t.all CodePoint.isInline = true) : t.isWritable = true := by
  refine List.all_eq_true.mpr fun c hc => ?_
  rw [List.all_eq_true.mp h c hc, Bool.or_true]

theorem isWritable_append : (t ++ u).isWritable = (t.isWritable && u.isWritable) :=
  List.all_append

/-- A line feed is nothing that stands in a line. -/
theorem newline_not_mem_of_isInline (h : t.all CodePoint.isInline = true) :
    (('\n' : Char) : CodePoint) ∉ t := by
  intro hmem
  have hline : CodePoint.isInline '\n' = true := List.all_eq_true.mp h _ hmem
  revert hline
  decide

theorem isPlain_spaces (n : Nat) : (spaces n).all CodePoint.isPlain = true := by
  have hspace : CodePoint.isPlain ' ' = true := by decide
  rw [spaces, List.all_replicate, hspace, ite_self]

theorem continues_hex : ∀ width n : Nat,
    (hex width n).all CodePoint.continuesIdentifier = true
  | 0, _ => rfl
  | width + 1, n => by
    have hdigit : ∀ d < 16, List.all [CodePoint.ofDigit d] CodePoint.continuesIdentifier = true := by
      decide
    rw [hex, List.all_append, continues_hex width, hdigit _ (Nat.mod_lt n (by decide))]
    rfl

end Text

namespace Literal

open Text

/-- The letter of a short escape is an ASCII letter, a backslash or a double quote. -/
theorem isInline_of_shortEscape? {c letter : CodePoint} (h : shortEscape? c = some letter) :
    letter.isInline = true := by
  unfold shortEscape? at h
  split_ifs at h <;> (obtain rfl := Option.some.inj h; decide)

theorem isPlain_escapeUnit (n : Nat) : (escapeUnit n).all CodePoint.isPlain = true := by
  rw [escapeUnit, List.all_cons, List.all_cons, isPlain_of_continues (continues_hex 4 n)]
  decide

/-- An escape can stand in a line, and so can a code point that stands for itself, unless it is a
surrogate; in ASCII those are escaped. -/
theorem isInline_escape {ascii : Bool} {c : CodePoint}
    (h : ascii = true ∨ c.isSurrogate = false) :
    (escape ascii c).all CodePoint.isInline = true := by
  unfold escape
  cases hshort : shortEscape? c with
  | some letter =>
    have hslash : CodePoint.isInline '\\' = true := by decide
    rw [List.all_cons, List.all_cons, hslash, isInline_of_shortEscape? hshort]
    rfl
  | none =>
    dsimp only
    split
    next =>
      unfold escapeNumber
      split
      · exact isInline_of_isPlain (isPlain_escapeUnit _)
      · rw [List.all_append, isInline_of_isPlain (isPlain_escapeUnit _),
          isInline_of_isPlain (isPlain_escapeUnit _)]
        rfl
    next hself =>
      simp only [Bool.or_eq_true, Bool.and_eq_true, decide_eq_true_iff, not_or] at hself
      obtain ⟨hcontrol, hascii⟩ := hself
      have hplain : c.isSurrogate = false := by
        rcases h with rfl | hplain
        · -- what is beyond the tilde is escaped, surrogates among it
          have hle : c.val ≤ 0x7E := by
            by_contra hgt
            exact hascii ⟨rfl, Nat.lt_of_not_le hgt⟩
          simp only [CodePoint.isSurrogate, Bool.and_eq_false_iff, decide_eq_false_iff_not]
          omega
        · exact hplain
      rw [List.all_cons, CodePoint.isInline_iff.mpr ⟨Nat.le_of_not_lt hcontrol, hplain⟩]
      rfl

theorem isInline_write {ascii : Bool} {t : Text}
    (h : ascii = true ∨ ∀ c ∈ t, c.isSurrogate = false) :
    (write ascii t).all CodePoint.isInline = true := by
  have hquote : CodePoint.isInline '"' = true := by decide
  have hquotes : ("\"" : Text).all CodePoint.isInline = true := by decide
  have hbody : (t.flatMap (escape ascii)).all CodePoint.isInline = true := by
    rw [List.all_flatMap, List.all_eq_true]
    intro c hc
    exact isInline_escape (h.imp_right fun ht => ht c hc)
  rw [write, List.all_cons, List.all_append, hquote, hbody, hquotes]
  rfl

end Literal

namespace Declaration

open Text

/-- **Any property name** can stand in a line as it is written: it is an identifier, or a literal in
which all surrogates are escaped. -/
theorem isInline_property (name : Text) : (property name).all CodePoint.isInline = true := by
  have hopen : ("[" : Text).all CodePoint.isInline = true := by decide
  have hclose : ("]" : Text).all CodePoint.isInline = true := by decide
  unfold property
  split
  next h => exact isInline_of_isPlain (isPlain_of_isIdentifier h)
  next =>
    have hkey : (Literal.write (name.any CodePoint.isSurrogate) name).all CodePoint.isInline
        = true := by
      refine Literal.isInline_write ?_
      cases hany : name.any CodePoint.isSurrogate with
      | true => exact .inl rfl
      | false => exact .inr fun c hc => Bool.eq_false_iff.mpr (List.any_eq_false.mp hany c hc)
    rw [List.all_append, List.all_append, hopen, hkey, hclose]
    rfl

theorem isWritable_lineBreak (width : Nat) : (lineBreak width).isWritable = true := by
  have hspaces := isWritable_of_isInline (isInline_of_isPlain (isPlain_spaces width))
  rw [isWritable] at hspaces
  rw [lineBreak, isWritable, List.all_cons, hspaces]
  rfl

/-- Objects can be written if their fields can. -/
theorem isWritable_object (indent level : Nat) {fields : List Text}
    (h : ∀ f ∈ fields, f.isWritable = true) : (object indent level fields).isWritable = true := by
  have hopen : isWritable "\x7b" = true := by decide
  have hclose : isWritable "\x7d" = true := by decide
  by_cases hindent : indent = 0
  · have hbody : isWritable fields.flatten = true := by
      rw [isWritable, List.all_flatten, List.all_eq_true]
      exact h
    rw [object, if_pos hindent, isWritable_append, isWritable_append, hopen, hbody, hclose]
    rfl
  · by_cases hfields : fields = []
    · subst hfields
      rw [object_nil]
      decide
    · have hlines : isWritable (fields.flatMap (lineBreak (indent * (level + 1)) ++ ·)) = true := by
        rw [isWritable, List.all_flatMap, List.all_eq_true]
        intro f hf
        have hline : (lineBreak (indent * (level + 1)) ++ f).isWritable = true := by
          rw [isWritable_append, isWritable_lineBreak, h f hf]
          rfl
        exact hline
      have hbrace : ∀ t : Text, isWritable (('{' : CodePoint) :: t) = t.isWritable := fun _ => rfl
      rw [object_lines level (Nat.pos_of_ne_zero hindent) hfields, hbrace, isWritable_append,
        isWritable_append, hlines, isWritable_lineBreak, hclose]
      rfl

end Declaration

/-! ## The classes that a shape names -/

namespace Shape

mutual

/-- Whether all classes that a shape names at any depth pass a test. -/
def namesOnly (q : Text → Bool) : Shape → Bool
  | node _ c e m =>
    c.toList.all q
      && (match e with
        | none => true
        | some x => namesOnly q x)
      && match m with
        | none => true
        | some ms => membersNameOnly q ms

/-- Whether this holds of the shapes of all members. -/
def membersNameOnly (q : Text → Bool) : List (Text × Shape) → Bool
  | [] => true
  | (_, s) :: ms => namesOnly q s && membersNameOnly q ms

end

theorem membersNameOnly_iff {q : Text → Bool} : ∀ {ms : List (Text × Shape)},
    membersNameOnly q ms = true ↔ ∀ name x, (name, x) ∈ ms → x.namesOnly q = true
  | [] => by simp [membersNameOnly]
  | (name, s) :: ms => by
    rw [membersNameOnly, Bool.and_eq_true, membersNameOnly_iff, Entries.forall_mem_cons]

theorem namesOnly_iff {q : Text → Bool} {s : Shape} : s.namesOnly q = true ↔
    (∀ c ∈ s.classes.toList, q c = true) ∧
    (∀ x, s.element = some x → x.namesOnly q = true) ∧
    ∀ ms, s.members = some ms → ∀ name x, (name, x) ∈ ms → x.namesOnly q = true := by
  obtain ⟨p, c, e, m⟩ := s
  cases e <;> cases m <;> simp [namesOnly, membersNameOnly_iff, and_assoc]

end Shape

/-! ## From the pieces to the whole -/

namespace Declaration

open Text

/-- A relation between texts in two layouts, at the same nesting level, that goes from pieces to
what is put together from them: it holds of a piece and itself, it is kept when texts are put one
after the other, and an object has it if its fields have it one level deeper. -/
structure Composes (i j : Nat) (q : Text → Bool) (R : Nat → Text → Text → Prop) : Prop where
  name : ∀ level t, q t = true → R level t t
  plain : ∀ level t, t.all CodePoint.isPlain = true → R level t t
  property : ∀ level t, R level (property t) (property t)
  append : ∀ {level t t' u u'}, R level t t' → R level u u' → R level (t ++ u) (t' ++ u')
  object : ∀ level (fields : List (Text × Text)),
    (∀ f ∈ fields, startsField f.1 = true ∧ R (level + 1) f.1 f.2) →
      R level (object i level (fields.map Prod.fst)) (object j level (fields.map Prod.snd))

namespace Composes

variable {i j level : Nat} {q : Text → Bool} {R : Nat → Text → Text → Prop}

theorem field (h : Composes i j q R) {t t' : Text} (name : Text) (ht : R level t t') :
    R level (field name t) (field name t') := by
  have hcolon : R level ": " ": " := h.plain level _ (by decide)
  have hsemicolon : R level ";" ";" := h.plain level _ (by decide)
  exact h.append (h.append (h.append (h.property level name) hcolon) ht) hsemicolon

theorem join (h : Composes i j q R) : ∀ {ts : List (Text × Text)}, (∀ t ∈ ts, R level t.1 t.2) →
    R level (join " | " (ts.map Prod.fst)) (join " | " (ts.map Prod.snd))
  | [], _ => h.plain level [] rfl
  | [t], ht => ht t List.mem_cons_self
  | t :: u :: ts, ht => by
    obtain ⟨hfirst, hrest⟩ := List.forall_mem_cons.mp ht
    have hbar : R level " | " " | " := h.plain level _ (by decide)
    exact h.append (h.append hfirst hbar) (h.join hrest)

/-- **What composes holds of every shape** as it is written, if the names of its classes pass. -/
theorem writeAt (h : Composes i j q R) {s : Shape} (hs : s.namesOnly q = true) (level : Nat) :
    R level (s.writeAt i level) (s.writeAt j level) := by
  induction s using Shape.part_induction generalizing level with
  | node s ihElement ihMember =>
    obtain ⟨hclasses, helement, hmembers⟩ := Shape.namesOnly_iff.mp hs
    have halternative : ∀ a ∈ s.alternatives, R level (a.write i level) (a.write j level) := by
      intro a ha
      cases a with
      | array x =>
        have hx := Shape.element_of_mem ha
        have hbefore : R level "Array<" "Array<" := h.plain level _ (by decide)
        have hafter : R level ">" ">" := h.plain level _ (by decide)
        exact h.append (h.append hbefore (ihElement x hx (helement x hx) level)) hafter
      | word name =>
        rcases Shape.word_of_mem ha with hclass | ⟨p, rfl⟩ | rfl
        · exact h.name level name (hclasses name hclass)
        · exact h.plain level _ (isPlain_of_isIdentifier (Shape.isIdentifier_name p))
        · exact h.plain level "unknown" (by decide)
      | object ms =>
        have hms := Shape.members_of_mem ha
        have hobject := h.object level (ms.map fun m => (Declaration.field m.1
          (m.2.writeAt i (level + 1)), Declaration.field m.1 (m.2.writeAt j (level + 1)))) ?_
        · rw [List.map_map, List.map_map] at hobject
          rw [Shape.Alternative.write, Shape.Alternative.write, Shape.writeFields_eq,
            Shape.writeFields_eq]
          exact hobject
        · intro f hf
          obtain ⟨⟨name, x⟩, hx, rfl⟩ := List.mem_map.mp hf
          have hwritten := ihMember ms name x hms hx (hmembers ms hms name x hx) (level + 1)
          exact ⟨startsField_field _ _, h.field name hwritten⟩
    have hpairs : ∀ t ∈ s.alternatives.map fun a => (a.write i level, a.write j level),
        R level t.1 t.2 := by
      intro t ht
      obtain ⟨a, ha, rfl⟩ := List.mem_map.mp ht
      exact halternative a ha
    have hjoin := h.join hpairs
    rw [List.map_map, List.map_map] at hjoin
    rw [Shape.writeAt_eq, Shape.writeAt_eq]
    exact hjoin

end Composes

/-- That a text can be written goes from pieces to the whole. -/
theorem composes_isWritable (indent : Nat) :
    Composes indent indent isWritable fun _ t _ => t.isWritable = true where
  name _ _ h := h
  plain _ _ h := isWritable_of_isInline (isInline_of_isPlain h)
  property _ t := isWritable_of_isInline (isInline_property t)
  append ht hu := by rw [isWritable_append, ht, hu]; rfl
  object level fields h := by
    refine isWritable_object indent level fun f hf => ?_
    obtain ⟨g, hg, rfl⟩ := List.mem_map.mp hf
    exact (h g hg).2

end Declaration

end ShapeInference
