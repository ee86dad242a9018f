import ShapeInference.Proofs.Writing

/-!
# Two layouts of one shape

A shape that is written with an indent has the text of the one on a single line, with line breaks
put in: a line feed and the margin of what comes next. Without them it is the same text. The width
of a margin is the indent as often as braces are open before it, less one before a brace that closes
an object. Braces in quoted keys do not count, and arrays open none.

- `Text.unbroken`: a text without its line breaks;
- `Nesting`, `Text.openBraces`: how many braces are open after a text;
- `Nesting.HasMargins`: every line feed in a text is followed by the margin that it should have;
- `Declaration.composes_unbreaks`, `Nesting.composes_fits`: both go from pieces to the whole;
- `Shape.newline_mem_writeAt_iff`: when there are line feeds at all;
- `Shape.layouts_agree`: the two layouts of a shape, and the margins of the one with line breaks.
-/

namespace ShapeInference

/-! ## Texts without their line breaks -/

namespace Text

/-- A text without its line breaks, where `broken` says whether a line feed has come before it and
nothing but spaces since. -/
def unbrokenAfter : Bool → Text → Text
  | _, [] => []
  | broken, c :: rest =>
    if c = '\n' then unbrokenAfter true rest
    else if broken && c = ' ' then unbrokenAfter true rest
    else c :: unbrokenAfter false rest

/-- A text without its line breaks: every line feed is left out, and so are all spaces right after
it. -/
def unbroken (t : Text) : Text :=
  unbrokenAfter false t

/-- Whether a text in which lines are broken has another one in its place when they are not,
wherever it stands. -/
def Unbreaks (t u : Text) : Prop :=
  ∀ rest, unbrokenAfter false (t ++ rest) = u ++ unbrokenAfter false rest

variable {t t' u u' : Text}

theorem Unbreaks.append (h : Unbreaks t u) (h' : Unbreaks t' u') :
    Unbreaks (t ++ t') (u ++ u') := by
  intro rest
  rw [List.append_assoc, h, h', List.append_assoc]

/-- A text without line feeds stays as it is. -/
theorem unbreaks_self (h : (('\n' : Char) : CodePoint) ∉ t) : Unbreaks t t := by
  intro rest
  induction t with
  | nil => rfl
  | cons c t ih =>
    have hc : c ≠ '\n' := fun heq => h (heq ▸ List.mem_cons_self)
    have ht : (('\n' : Char) : CodePoint) ∉ t := fun hmem => h (List.mem_cons_of_mem c hmem)
    rw [List.cons_append, unbrokenAfter, if_neg hc, Bool.false_and, if_neg Bool.false_ne_true,
      ih ht, List.cons_append]

/-- Spaces right after a line feed are left out. -/
theorem unbrokenAfter_spaces (n : Nat) (rest : Text) :
    unbrokenAfter true (spaces n ++ rest) = unbrokenAfter true rest := by
  have hspace : ¬((' ' : Char) : CodePoint) = '\n' := by decide
  unfold spaces
  induction n with
  | zero => rfl
  | succ n ih =>
    rw [List.replicate_succ, List.cons_append, unbrokenAfter, if_neg hspace]
    simpa using ih

/-- What is left out ends where a text does not begin with a space. -/
theorem unbrokenAfter_of_head (h : ∀ c ∈ t.head?, c ≠ ' ') :
    unbrokenAfter true t = unbrokenAfter false t := by
  cases t with
  | nil => rfl
  | cons c t =>
    have hc : c ≠ ' ' := h c rfl
    simp [unbrokenAfter, hc]

end Text

namespace Declaration

open Text

variable {t u : Text} {indent : Nat}

/-- A field begins with no space and no line feed. -/
theorem head_of_startsField (h : startsField t = true) :
    ∃ c rest, t = c :: rest ∧ c ≠ ' ' ∧ c ≠ '\n' ∧ c ≠ '}' := by
  have hne : ∀ {c d : CodePoint}, (c.startsIdentifier || c = '[') = true →
      (d.startsIdentifier || d = '[') = false → c ≠ d := by
    rintro c d hc hd rfl
    rw [hc] at hd
    cases hd
  cases t with
  | nil => cases h
  | cons c rest =>
    exact ⟨c, rest, rfl, hne h (by decide), hne h (by decide), hne h (by decide)⟩

/-- Before a field a line break is left out. -/
theorem unbreaks_lineBreak (width : Nat) (ht : startsField t = true) (h : Unbreaks t u) :
    Unbreaks (lineBreak width ++ t) u := by
  obtain ⟨c, tail, rfl, hspace, -, -⟩ := head_of_startsField ht
  intro rest
  have hhead : ∀ d ∈ (c :: tail ++ rest).head?, d ≠ ' ' := by
    intro d hd
    obtain rfl : c = d := Option.some.inj hd
    exact hspace
  rw [List.append_assoc, lineBreak, List.cons_append, unbrokenAfter, if_pos rfl,
    unbrokenAfter_spaces, unbrokenAfter_of_head hhead, h]

/-- Fields on lines of their own are the fields one after the other. -/
theorem unbreaks_lines (width : Nat) {fields : List (Text × Text)}
    (h : ∀ f ∈ fields, startsField f.1 = true ∧ Unbreaks f.1 f.2) :
    Unbreaks ((fields.map Prod.fst).flatMap (lineBreak width ++ ·))
      (fields.map Prod.snd).flatten := by
  induction fields with
  | nil => exact fun _ => rfl
  | cons f fields ih =>
    obtain ⟨⟨hstarts, hf⟩, hrest⟩ := List.forall_mem_cons.mp h
    rw [List.map_cons, List.map_cons, List.flatMap_cons, List.flatten_cons]
    exact (unbreaks_lineBreak width hstarts hf).append (ih hrest)

/-- Before the last brace of an object a line break is left out, too. -/
theorem unbreaks_lastBrace (width : Nat) :
    Unbreaks (lineBreak width ++ ("\x7d" : Text)) "\x7d" := by
  intro rest
  have hhead : ∀ d ∈ (("\x7d" : Text) ++ rest).head?, d ≠ ' ' := by
    intro d hd
    obtain rfl : '}' = d := Option.some.inj hd
    decide
  rw [List.append_assoc, lineBreak, List.cons_append, unbrokenAfter, if_pos rfl,
    unbrokenAfter_spaces, unbrokenAfter_of_head hhead]
  rfl

/-- That only line breaks are left out goes from pieces to the whole. -/
theorem composes_unbreaks (hindent : 0 < indent) :
    Composes indent 0 isIdentifier fun _ t u => Unbreaks t u where
  name _ _ h := unbreaks_self (newline_not_mem_of_isInline
    (isInline_of_isPlain (isPlain_of_isIdentifier h)))
  plain _ _ h := unbreaks_self (newline_not_mem_of_isInline (isInline_of_isPlain h))
  property _ t := unbreaks_self (newline_not_mem_of_isInline (isInline_property t))
  append ht hu := ht.append hu
  object level fields h := by
    have hbrace : Unbreaks "\x7b" "\x7b" := unbreaks_self (by decide)
    have hlines := unbreaks_lines (indent * (level + 1)) h
    have hcompact : object 0 level (fields.map Prod.snd)
        = ("\x7b" : Text) ++ ((fields.map Prod.snd).flatten ++ ("\x7d" : Text)) := by
      rw [object, if_pos rfl, List.append_assoc]
    by_cases hfields : fields = []
    · subst hfields
      rw [List.map_nil, List.map_nil, object_nil, object_nil]
      exact unbreaks_self (by decide)
    · have hfirst : fields.map Prod.fst ≠ [] := by simpa using hfields
      rw [object_lines level hindent hfirst, hcompact]
      exact hbrace.append (hlines.append (unbreaks_lastBrace _))

end Declaration

/-! ## Open braces -/

/-- Where the reading of a declaration stands with respect to quoted keys. -/
inductive Quoting where
  /-- Outside of them. -/
  | outside
  /-- Inside of one. -/
  | inside
  /-- Inside of one, right after a backslash. -/
  | escaped
  deriving DecidableEq

/-- What is known when a declaration was read up to some place: how many braces are open, and
whether the place is in a quoted key. -/
structure Nesting where
  opened : Nat
  quoting : Quoting
  deriving DecidableEq

namespace Nesting

open Text Declaration

/-- One more code point. Braces count outside of quoted keys, and a backslash takes the meaning from
what comes after it. -/
def step (s : Nesting) (c : CodePoint) : Nesting :=
  match s.quoting with
  | .outside =>
    if c = '"' then { s with quoting := .inside }
    else if c = '{' then { s with opened := s.opened + 1 }
    else if c = '}' then { s with opened := s.opened - 1 }
    else s
  | .inside =>
    if c = '"' then { s with quoting := .outside }
    else if c = '\\' then { s with quoting := .escaped }
    else s
  | .escaped => { s with quoting := .inside }

/-- What is known after some more text. -/
def after (s : Nesting) (t : Text) : Nesting :=
  t.foldl step s

end Nesting

/-- The number of braces that are open after a text, apart from those in quoted keys. -/
def Text.openBraces (t : Text) : Nat :=
  (Nesting.after ⟨0, .outside⟩ t).opened

namespace Nesting

open Text Declaration

variable {s : Nesting} {t u : Text} {opened : Nat}

@[simp] theorem after_nil (s : Nesting) : s.after [] = s := rfl

@[simp] theorem after_cons (s : Nesting) (c : CodePoint) (t : Text) :
    s.after (c :: t) = (s.step c).after t := rfl

theorem after_append (s : Nesting) (t u : Text) : s.after (t ++ u) = (s.after t).after u :=
  List.foldl_append

/-- Nothing changes along code points that change nothing. -/
theorem after_of_step (h : ∀ c ∈ t, s.step c = s) : s.after t = s := by
  induction t with
  | nil => rfl
  | cons c t ih =>
    obtain ⟨hc, ht⟩ := List.forall_mem_cons.mp h
    rw [after_cons, hc, ih ht]

theorem after_plain (h : t.all CodePoint.isPlain = true) :
    after ⟨opened, .outside⟩ t = ⟨opened, .outside⟩ := by
  refine after_of_step fun c hc => ?_
  have hplain := List.all_eq_true.mp h c hc
  simp only [CodePoint.isPlain, Bool.and_eq_true, decide_eq_true_iff] at hplain
  obtain ⟨⟨⟨-, hquote⟩, hopen⟩, hclose⟩ := hplain
  rw [step]
  simp only [if_neg hquote, if_neg hopen, if_neg hclose]

/-- What can be in an identifier is neither a quote nor a backslash. -/
theorem after_inside (h : t.all CodePoint.continuesIdentifier = true) :
    after ⟨opened, .inside⟩ t = ⟨opened, .inside⟩ := by
  refine after_of_step fun c hc => ?_
  have hcontinues := List.all_eq_true.mp h c hc
  have hquote : c ≠ '"' := CodePoint.ne_of_continuesIdentifier hcontinues (by decide)
  have hslash : c ≠ '\\' := CodePoint.ne_of_continuesIdentifier hcontinues (by decide)
  rw [step]
  simp only [if_neg hquote, if_neg hslash]

/-! ### Quoted keys -/

/-- **An escape** does not end a literal. -/
theorem after_escape (ascii : Bool) (c : CodePoint) :
    after ⟨opened, .inside⟩ (Literal.escape ascii c) = ⟨opened, .inside⟩ := by
  have hunit : ∀ n, after ⟨opened, .inside⟩ (Literal.escapeUnit n) = ⟨opened, .inside⟩ := by
    intro n
    have hletter : step (step ⟨opened, .inside⟩ '\\') 'u' = ⟨opened, .inside⟩ := rfl
    rw [Literal.escapeUnit, after_cons, after_cons, hletter, after_inside (continues_hex 4 n)]
  unfold Literal.escape
  cases hshort : Literal.shortEscape? c with
  | some letter => rfl
  | none =>
    dsimp only
    split
    next =>
      unfold Literal.escapeNumber
      split
      · exact hunit _
      · rw [after_append, hunit, hunit]
    next =>
      -- both code points that would be read otherwise have short escapes
      have hquote : c ≠ '"' := by
        rintro rfl
        cases hshort
      have hslash : c ≠ '\\' := by
        rintro rfl
        cases hshort
      rw [after_cons, after_nil, step]
      simp only [if_neg hquote, if_neg hslash]

theorem after_literal (ascii : Bool) (t : Text) :
    after ⟨opened, .outside⟩ (Literal.write ascii t) = ⟨opened, .outside⟩ := by
  have hbody : after ⟨opened, .inside⟩ (t.flatMap (Literal.escape ascii))
      = ⟨opened, .inside⟩ := by
    induction t with
    | nil => rfl
    | cons c t ih => rw [List.flatMap_cons, after_append, after_escape, ih]
  have hopen : step ⟨opened, .outside⟩ '"' = ⟨opened, .inside⟩ := rfl
  rw [Literal.write, after_cons, hopen, after_append, hbody]
  rfl

/-- **A property name** opens no brace and closes none, whatever braces are in it. -/
theorem after_property (name : Text) :
    after ⟨opened, .outside⟩ (property name) = ⟨opened, .outside⟩ := by
  unfold property
  split
  next h => exact after_plain (isPlain_of_isIdentifier h)
  next =>
    have hopen : ("[" : Text).all CodePoint.isPlain = true := by decide
    have hclose : ("]" : Text).all CodePoint.isPlain = true := by decide
    rw [after_append, after_append, after_plain hopen, after_literal, after_plain hclose]

/-! ### Margins -/

/-- A line begins with the margin that it should have when some braces are open before it: `indent`
spaces for each, less one if its first brace closes an object. -/
def MarginAt (indent opened : Nat) (line : Text) : Prop :=
  ∃ (margin : Nat) (c : CodePoint) (rest : Text), line = spaces (indent * margin) ++ c :: rest ∧
    c ≠ ' ' ∧ c ≠ '\n' ∧ opened = if c = '}' then margin + 1 else margin

/-- Every line feed in a text is followed by the margin that it should have. -/
def HasMargins (indent : Nat) (s : Nesting) : Text → Prop
  | [] => True
  | c :: rest => (c = '\n' → MarginAt indent s.opened rest) ∧ HasMargins indent (s.step c) rest

variable {indent : Nat}

theorem MarginAt.append {line : Text} (h : MarginAt indent opened line) (u : Text) :
    MarginAt indent opened (line ++ u) := by
  obtain ⟨margin, c, rest, rfl, hspace, hnewline, hopened⟩ := h
  exact ⟨margin, c, rest ++ u, by simp, hspace, hnewline, hopened⟩

theorem HasMargins.append (ht : HasMargins indent s t) (hu : HasMargins indent (s.after t) u) :
    HasMargins indent s (t ++ u) := by
  induction t generalizing s with
  | nil => exact hu
  | cons c t ih => exact ⟨fun hc => (ht.1 hc).append u, ih ht.2 hu⟩

/-- Where there are no line feeds there is nothing to look at. -/
theorem hasMargins_of_not_mem (h : (('\n' : Char) : CodePoint) ∉ t) : HasMargins indent s t := by
  induction t generalizing s with
  | nil => exact True.intro
  | cons c t ih =>
    refine ⟨fun hc => absurd (hc ▸ List.mem_cons_self) h, ih fun hmem => ?_⟩
    exact h (List.mem_cons_of_mem c hmem)

theorem after_lineBreak (width : Nat) :
    after ⟨opened, .outside⟩ (lineBreak width) = ⟨opened, .outside⟩ := by
  have hnewline : step ⟨opened, .outside⟩ '\n' = ⟨opened, .outside⟩ := rfl
  rw [lineBreak, after_cons, hnewline, after_plain (isPlain_spaces width)]

/-- **A line break with a margin** is right for what comes after it, if the margin is. -/
theorem hasMargins_lineBreak {margin : Nat} {c : CodePoint} (hspace : c ≠ ' ') (hnewline : c ≠ '\n')
    (hopened : opened = if c = '}' then margin + 1 else margin)
    (h : HasMargins indent ⟨opened, .outside⟩ (c :: t)) :
    HasMargins indent ⟨opened, .outside⟩ (lineBreak (indent * margin) ++ c :: t) := by
  have hspaces : (spaces (indent * margin)).all CodePoint.isPlain = true := isPlain_spaces _
  have hstep : step ⟨opened, .outside⟩ '\n' = ⟨opened, .outside⟩ := rfl
  have hmargin : HasMargins indent ⟨opened, .outside⟩ (spaces (indent * margin)) :=
    hasMargins_of_not_mem (newline_not_mem_of_isInline (isInline_of_isPlain hspaces))
  refine ⟨fun _ => ⟨margin, c, t, rfl, hspace, hnewline, hopened⟩, ?_⟩
  show HasMargins indent (step ⟨opened, .outside⟩ '\n') (spaces (indent * margin) ++ c :: t)
  rw [hstep]
  refine hmargin.append ?_
  rw [after_plain hspaces]
  exact h

/-- Line feeds and spaces open no brace and close none, wherever they stand. -/
theorem opened_after_lineBreak (s : Nesting) (width : Nat) :
    (s.after (lineBreak width)).opened = s.opened := by
  have hstep : ∀ (s : Nesting), (s.step ' ').opened = s.opened := by
    rintro ⟨opened, quoting⟩
    cases quoting <;> rfl
  have hnewline : (s.step '\n').opened = s.opened := by
    obtain ⟨opened, quoting⟩ := s
    cases quoting <;> rfl
  rw [lineBreak, after_cons, ← hnewline, spaces]
  generalize s.step '\n' = s'
  induction width generalizing s' with
  | zero => rfl
  | succ n ih => rw [List.replicate_succ, after_cons, ih, hstep]

/-- In a text that has its margins, every line after the first begins with the one that it should
have. -/
theorem HasMargins.marginAt (h : HasMargins indent s t) {before line : Text}
    (ht : t = before ++ (('\n' : Char) : CodePoint) :: line) :
    MarginAt indent (s.after before).opened line := by
  subst ht
  induction before generalizing s with
  | nil => exact h.1 rfl
  | cons c before ih => exact ih h.2

/-- A text that stands where some braces are open: it closes those that it opens, and its line feeds
are followed by their margins. -/
structure Fits (indent opened : Nat) (t : Text) : Prop where
  after : after ⟨opened, .outside⟩ t = ⟨opened, .outside⟩
  margins : HasMargins indent ⟨opened, .outside⟩ t

theorem Fits.append (ht : Fits indent opened t) (hu : Fits indent opened u) :
    Fits indent opened (t ++ u) where
  after := by rw [after_append, ht.after, hu.after]
  margins := ht.margins.append (by rw [ht.after]; exact hu.margins)

theorem fits_of_isInline (hline : t.all CodePoint.isInline = true)
    (hafter : after ⟨opened, .outside⟩ t = ⟨opened, .outside⟩) : Fits indent opened t :=
  ⟨hafter, hasMargins_of_not_mem (newline_not_mem_of_isInline hline)⟩

theorem fits_of_isPlain (h : t.all CodePoint.isPlain = true) : Fits indent opened t :=
  fits_of_isInline (isInline_of_isPlain h) (after_plain h)

/-- A field on a line of its own has the margin of the braces that are open before it. -/
theorem Fits.line (h : Fits indent opened t) (hstarts : startsField t = true) :
    Fits indent opened (lineBreak (indent * opened) ++ t) where
  after := by rw [after_append, after_lineBreak, h.after]
  margins := by
    have hmargins := h.margins
    obtain ⟨c, rest, rfl, hspace, hnewline, hbrace⟩ := head_of_startsField hstarts
    exact hasMargins_lineBreak hspace hnewline (by rw [if_neg hbrace]) hmargins

theorem fits_lines {fields : List Text}
    (h : ∀ f ∈ fields, startsField f = true ∧ Fits indent opened f) :
    Fits indent opened (fields.flatMap (lineBreak (indent * opened) ++ ·)) := by
  induction fields with
  | nil => exact fits_of_isPlain rfl
  | cons f fields ih =>
    obtain ⟨⟨hstarts, hf⟩, hrest⟩ := List.forall_mem_cons.mp h
    rw [List.flatMap_cons]
    exact (hf.line hstarts).append (ih hrest)

/-- **An object fits** if its fields do, one level deeper. -/
theorem fits_object (hindent : 0 < indent) {fields : List Text}
    (h : ∀ f ∈ fields, startsField f = true ∧ Fits indent (opened + 1) f) :
    Fits indent opened (object indent opened fields) := by
  by_cases hfields : fields = []
  · subst hfields
    rw [object_nil]
    exact ⟨rfl, hasMargins_of_not_mem (by decide)⟩
  · -- one more brace is open for all lines of the object, its last one included
    have hlines := fits_lines h
    have hopen : step ⟨opened, .outside⟩ '{' = ⟨opened + 1, .outside⟩ := rfl
    have hclose : after ⟨opened + 1, .outside⟩ "\x7d" = ⟨opened, .outside⟩ := rfl
    rw [object_lines opened hindent hfields]
    constructor
    · rw [after_cons, hopen, after_append, hlines.after, after_append, after_lineBreak, hclose]
    · have hlast : HasMargins indent ⟨opened + 1, .outside⟩
          (lineBreak (indent * opened) ++ ("\x7d" : Text)) :=
        hasMargins_lineBreak (by decide) (by decide) (if_pos rfl).symm
          (hasMargins_of_not_mem (by decide))
      refine ⟨fun hc => absurd hc (by decide), ?_⟩
      rw [hopen]
      refine hlines.margins.append ?_
      rw [hlines.after]
      exact hlast

/-- That texts fit goes from pieces to the whole, where the nesting level is the number of open
braces. -/
theorem composes_fits (hindent : 0 < indent) :
    Composes indent indent isIdentifier fun level t _ => Fits indent level t where
  name _ _ h := fits_of_isPlain (isPlain_of_isIdentifier h)
  plain _ _ h := fits_of_isPlain h
  property _ t := fits_of_isInline (isInline_property t) (after_property t)
  append ht hu := ht.append hu
  object level fields h := by
    refine fits_object hindent fun f hf => ?_
    obtain ⟨g, hg, rfl⟩ := List.mem_map.mp hf
    exact h g hg

end Nesting

/-! ## Where there are line feeds -/

namespace Text

/-- Texts that are joined have what one of them has, apart from what the separator has. -/
theorem mem_join_iff {separator : Text} {c : CodePoint} (hc : c ∉ separator) :
    ∀ {ts : List Text}, c ∈ join separator ts ↔ ∃ t ∈ ts, c ∈ t
  | [] => by simp [join]
  | [t] => by simp [join]
  | t :: u :: ts => by
    have hjoin : join separator (t :: u :: ts) = t ++ separator ++ join separator (u :: ts) := rfl
    rw [hjoin, List.mem_append, List.mem_append, mem_join_iff hc, or_iff_left hc]
    simp

end Text

namespace Declaration

open Text

theorem newline_not_mem_property (name : Text) : (('\n' : Char) : CodePoint) ∉ property name :=
  newline_not_mem_of_isInline (isInline_property name)

theorem newline_mem_field_iff {name written : Text} :
    (('\n' : Char) : CodePoint) ∈ field name written ↔ (('\n' : Char) : CodePoint) ∈ written := by
  have hcolon : (('\n' : Char) : CodePoint) ∉ (": " : Text) := by decide
  have hsemicolon : (('\n' : Char) : CodePoint) ∉ (";" : Text) := by decide
  simp [field, newline_not_mem_property, hcolon, hsemicolon]

/-- An object has line feeds if it has fields and an indent, or if one of its fields has some. -/
theorem newline_mem_object_iff {indent level : Nat} {fields : List Text} :
    (('\n' : Char) : CodePoint) ∈ object indent level fields ↔
      0 < indent ∧ fields ≠ [] ∨ ∃ f ∈ fields, (('\n' : Char) : CodePoint) ∈ f := by
  have hopen : (('\n' : Char) : CodePoint) ∉ ("\x7b" : Text) := by decide
  have hclose : (('\n' : Char) : CodePoint) ∉ ("\x7d" : Text) := by decide
  by_cases hindent : indent = 0
  · -- on one line there are no line feeds but those of the fields
    subst hindent
    rw [object, if_pos rfl]
    simp [hopen, hclose]
  · by_cases hfields : fields = []
    · subst hfields
      have hempty : (('\n' : Char) : CodePoint) ∉ ("\x7b\x7d" : Text) := by decide
      rw [object_nil]
      simp [hempty]
    · have hpos := Nat.pos_of_ne_zero hindent
      refine iff_of_true ?_ (.inl ⟨hpos, hfields⟩)
      rw [object_lines level hpos hfields]
      simp [lineBreak]

end Declaration

namespace Shape

open Declaration Text

/-- The shapes that stand in a shape at some depth: itself, and what stands in its element or in one
of its members. -/
inductive StandsIn : Shape → Shape → Prop where
  | self (s : Shape) : StandsIn s s
  | element {s t x : Shape} (hx : t.element = some x) (h : StandsIn s x) : StandsIn s t
  | member {s t x : Shape} {ms : List (Text × Shape)} {name : Text} (hms : t.members = some ms)
      (hx : (name, x) ∈ ms) (h : StandsIn s x) : StandsIn s t

theorem array_mem_alternatives {s x : Shape} (h : s.element = some x) :
    .array x ∈ s.alternatives := by
  have hmem : x ∈ s.alternatives.filterMap Alternative.element? := by
    rw [filterMap_element?, h]
    exact List.mem_singleton.mpr rfl
  obtain ⟨a, ha, hx⟩ := List.mem_filterMap.mp hmem
  cases a with
  | array y =>
    obtain rfl : y = x := Option.some.inj hx
    exact ha
  | word => cases hx
  | object => cases hx

theorem object_mem_alternatives {s : Shape} {ms : List (Text × Shape)} (h : s.members = some ms) :
    .object ms ∈ s.alternatives := by
  have hmem : ms ∈ s.alternatives.filterMap Alternative.members? := by
    rw [filterMap_members?, h]
    exact List.mem_singleton.mpr rfl
  obtain ⟨a, ha, hms⟩ := List.mem_filterMap.mp hmem
  cases a with
  | object ns =>
    obtain rfl : ns = ms := Option.some.inj hms
    exact ha
  | word => cases hms
  | array => cases hms

/-- A text of a shape has line feeds if one of its alternatives has. -/
theorem newline_mem_writeAt {s : Shape} {indent level : Nat} :
    (('\n' : Char) : CodePoint) ∈ s.writeAt indent level ↔
      ∃ a ∈ s.alternatives, (('\n' : Char) : CodePoint) ∈ a.write indent level := by
  have hbar : (('\n' : Char) : CodePoint) ∉ (" | " : Text) := by decide
  rw [writeAt_eq, mem_join_iff hbar]
  simp

theorem newline_mem_array_iff {x : Shape} {indent level : Nat} :
    (('\n' : Char) : CodePoint) ∈ (Alternative.array x).write indent level ↔
      (('\n' : Char) : CodePoint) ∈ x.writeAt indent level := by
  have hbefore : (('\n' : Char) : CodePoint) ∉ ("Array<" : Text) := by decide
  have hafter : (('\n' : Char) : CodePoint) ∉ (">" : Text) := by decide
  simp [Alternative.write, hbefore, hafter]

theorem newline_mem_objectOf_iff {ms : List (Text × Shape)} {indent level : Nat} :
    (('\n' : Char) : CodePoint) ∈ (Alternative.object ms).write indent level ↔
      0 < indent ∧ ms ≠ [] ∨
        ∃ name x, (name, x) ∈ ms ∧ (('\n' : Char) : CodePoint) ∈ x.writeAt indent (level + 1) := by
  rw [Alternative.write, newline_mem_object_iff, writeFields_eq]
  simp [newline_mem_field_iff]

/-- **Line feeds** are in the text of a shape exactly if there is an indent and an object with
members stands somewhere in the shape. -/
theorem newline_mem_writeAt_iff {s : Shape} (hs : s.namesOnly isIdentifier = true)
    {indent : Nat} (level : Nat) : (('\n' : Char) : CodePoint) ∈ s.writeAt indent level ↔
      0 < indent ∧ ∃ x : Shape, x.StandsIn s ∧ x.memberNames ≠ [] := by
  induction s using part_induction generalizing level with
  | node s ihElement ihMember =>
    obtain ⟨hclasses, helement, hmembers⟩ := namesOnly_iff.mp hs
    rw [newline_mem_writeAt]
    constructor
    · -- a line feed is in some alternative, so the shape where it is written is one of its parts
      rintro ⟨a, ha, hmem⟩
      cases a with
      | array x =>
        have hx := element_of_mem ha
        rw [newline_mem_array_iff, ihElement x hx (helement x hx)] at hmem
        obtain ⟨hindent, y, hy, hnames⟩ := hmem
        exact ⟨hindent, y, .element hx hy, hnames⟩
      | word name =>
        have hname : name.isIdentifier = true := by
          rcases word_of_mem ha with hclass | ⟨p, rfl⟩ | rfl
          · exact hclasses name hclass
          · exact isIdentifier_name p
          · decide
        exact absurd hmem (newline_not_mem_of_isInline
          (isInline_of_isPlain (isPlain_of_isIdentifier hname)))
      | object ms =>
        have hms := members_of_mem ha
        rcases newline_mem_objectOf_iff.mp hmem with ⟨hindent, hne⟩ | ⟨name, x, hx, hwritten⟩
        · refine ⟨hindent, s, .self s, ?_⟩
          rw [memberNames, hms]
          simpa using hne
        · rw [ihMember ms name x hms hx (hmembers ms hms name x hx)] at hwritten
          obtain ⟨hindent, y, hy, hnames⟩ := hwritten
          exact ⟨hindent, y, .member hms hx hy, hnames⟩
    · -- what stands in a part is written in its alternative
      rintro ⟨hindent, y, hy, hnames⟩
      cases hy with
      | self =>
        cases hms : s.members with
        | none =>
          rw [memberNames, hms] at hnames
          exact absurd rfl hnames
        | some ms =>
          have hne : ms ≠ [] := by
            rintro rfl
            rw [memberNames, hms] at hnames
            exact hnames rfl
          have hwritten : (('\n' : Char) : CodePoint) ∈ (Alternative.object ms).write indent level :=
            newline_mem_objectOf_iff.mpr (.inl ⟨hindent, hne⟩)
          exact ⟨_, object_mem_alternatives hms, hwritten⟩
      | element hx h =>
        have hwritten := (ihElement _ hx (helement _ hx) level).mpr ⟨hindent, y, h, hnames⟩
        exact ⟨_, array_mem_alternatives hx, newline_mem_array_iff.mpr hwritten⟩
      | member hms hx h =>
        have hwritten := (ihMember _ _ _ hms hx (hmembers _ hms _ _ hx) (level + 1)).mpr
          ⟨hindent, y, h, hnames⟩
        exact ⟨_, object_mem_alternatives hms,
          newline_mem_objectOf_iff.mpr (.inr ⟨_, _, hx, hwritten⟩)⟩

/-! ## Both layouts -/

theorem memberMargins_eq (indent level : Nat) (ms : List (Text × Shape)) :
    memberMargins indent level ms = ms.flatMap fun m => m.2.marginsAt indent (level + 1) := by
  induction ms with
  | nil => rw [memberMargins, List.flatMap_nil]
  | cons m ms ih => rw [memberMargins, ih, List.flatMap_cons]

/-- Without an indent all margins are empty. -/
theorem margin_eq_zero {s : Shape} {level width : Nat} (h : width ∈ s.marginsAt 0 level) :
    width = 0 := by
  induction s using part_induction generalizing level with
  | node s ihElement ihMember =>
    obtain ⟨p, c, e, m⟩ := s
    rw [marginsAt.eq_def, List.mem_append] at h
    rcases h with helement | hmembers
    · cases e with
      | none => cases helement
      | some x => exact ihElement x rfl helement
    · cases m with
      | none => cases hmembers
      | some ms =>
        dsimp only at hmembers
        rw [memberMargins_eq, List.mem_append, List.mem_flatMap] at hmembers
        rcases hmembers with ⟨⟨name, x⟩, hx, hwidth⟩ | hown
        · exact ihMember ms name x rfl hx hwidth
        · split at hown
          · cases hown
          · rw [List.mem_singleton.mp hown, Nat.zero_mul]

/-- On one line a text takes no more than memory and stack. -/
theorem hasRoom_zero_iff {machine : Machine} {s : Shape} :
    machine.HasRoom s 0 ↔ machine.writing s 0 = none := by
  refine ⟨fun hroom => hroom.enough, fun henough => ⟨henough, fun width hwidth => ?_⟩⟩
  rw [margin_eq_zero hwidth]
  exact Nat.zero_le _

/-- **Indented and compact text agree**, for a shape that names classes by identifiers. Without its
line breaks the text with an indent is the text on one line. Each of its lines after the first
begins with the indent as often as braces are open before what comes next, less one if that is a
brace that closes an object. Both texts are what is written on request by a machine that has room
for them: a request may fail on any other machine, and then there is no text. -/
theorem layouts_agree {s : Shape} (hs : s.namesOnly isIdentifier = true) {n : Nat} (hn : 0 < n) :
    (s.write n).unbroken = s.write 0 ∧
    (∀ before line : Text, s.write n = before ++ (('\n' : Char) : CodePoint) :: line →
      ∃ (margin : Nat) (c : CodePoint) (rest : Text),
        line = spaces (n * margin) ++ c :: rest ∧ c ≠ ' ' ∧ c ≠ '\n' ∧
        openBraces (before ++ (('\n' : Char) : CodePoint) :: spaces (n * margin))
          = if c = '}' then margin + 1 else margin) ∧
    ∀ (machine : Machine) (x : Text),
      (Request.write machine (.shape s) .null = .ok x ↔
        machine.writing s 0 = none ∧ x = s.write 0) ∧
      (Request.write machine (.shape s) (.int n) = .ok x ↔
        machine.HasRoom s n ∧ x = s.write n) := by
  refine ⟨?_, fun before line hline => ?_, fun machine x => ⟨?_, Request.write_ok_iff rfl⟩⟩
  · -- nothing comes after the text as a whole
    have hunbroken := (composes_unbreaks hn).writeAt hs 0 []
    rw [List.append_nil, unbrokenAfter, List.append_nil] at hunbroken
    exact hunbroken
  · have hmargins := ((Nesting.composes_fits hn).writeAt hs 0).margins
    obtain ⟨margin, c, rest, hrest, hspace, hnewline, hopened⟩ := hmargins.marginAt hline
    refine ⟨margin, c, rest, hrest, hspace, hnewline, ?_⟩
    rw [← hopened, openBraces, Nesting.after_append]
    exact Nesting.opened_after_lineBreak _ _
  · rw [Request.write_ok_iff rfl, hasRoom_zero_iff]

/-- A union in which an object ends where another one begins, with a key that is full of braces. -/
def keysWithBraces : Shape :=
  ((arrayOf (objectOf [("\x7b \"\n\x7d", simple .number)])).merge (named "Row")).merge
    (objectOf [("a", objectOf []), ("b", objectOf [("c", empty)])])

/-- What is written of it with an indent of two, up to one of the line feeds. -/
def linesBefore : Text :=
  "Array<\x7b\n  [\"\x7b \\\"\\n\x7d\"]: number;\n\x7d> | Row | \x7b\n  a: \x7b\x7d;\n  b: \x7b"

/-- What is written after that line feed. -/
def linesAfter : Text :=
  "    c: unknown;\n  \x7d;\n\x7d"

theorem layouts_agree_of_keys_with_braces :
    keysWithBraces.namesOnly isIdentifier = true ∧
    keysWithBraces.write 0 = ("Array<\x7b[\"\x7b \\\"\\n\x7d\"]: number;\x7d>" : Text)
      ++ (" | Row | \x7ba: \x7b\x7d;b: \x7bc: unknown;\x7d;\x7d" : Text) ∧
    keysWithBraces.write 2 = linesBefore ++ (('\n' : Char) : CodePoint) :: linesAfter ∧
    (keysWithBraces.write 2).unbroken = keysWithBraces.write 0 ∧
    ∃ (margin : Nat) (c : CodePoint) (rest : Text),
      linesAfter = spaces (2 * margin) ++ c :: rest ∧ c ≠ ' ' ∧ c ≠ '\n' ∧
      openBraces (linesBefore ++ (('\n' : Char) : CodePoint) :: spaces (2 * margin))
        = if c = '}' then margin + 1 else margin := by
  have hs : keysWithBraces.namesOnly isIdentifier = true := by decide
  obtain ⟨hunbroken, hlines, -⟩ := layouts_agree hs (n := 2) (by decide)
  have htext : keysWithBraces.write 2
      = linesBefore ++ (('\n' : Char) : CodePoint) :: linesAfter := by decide
  exact ⟨hs, by decide, htext, hunbroken, hlines _ _ htext⟩

/-- Two braces are open before the last member. -/
example : openBraces (linesBefore ++ (('\n' : Char) : CodePoint) :: spaces 4) = 2 := by decide

end Shape

end ShapeInference
