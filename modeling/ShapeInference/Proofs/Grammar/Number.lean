import ShapeInference.Proofs.Grammar.Digit
import ShapeInference.Proofs.Reading

/-!
# The grammar of numbers

A number is a minus sign or none, the digits before the point, a fraction or none, and an exponent
or none. No digit stands before another one if it is a zero at the beginning; a point or the letter
of an exponent needs a digit after it. A reader takes the longest number there is, so what the
grammar derives is read as a whole only if what follows cannot belong to a number.

- `Json.IsWhole`, `Json.IsFraction`, `Json.IsSign`, `Json.IsExponent`: the grammar of the parts;
- `Json.Number.IsWritten`: the grammar of numbers;
- `Json.EndsNumber`: what follows cannot belong to a number;
- `Json.readNumber?_of_isWritten`: what the grammar derives is read;
- `Json.isWritten_of_readNumber?`: whatever is read is derived by the grammar.
-/

namespace ShapeInference

namespace Json

/-! ## The grammar -/

/-- Digits, one at least. -/
def AreDigits (t : Text) : Prop :=
  t ≠ [] ∧ ∀ c ∈ t, c ∈ decimals

/-- The digits before the point: a zero alone, or digits of which the first one is no zero. -/
inductive IsWhole : Text → Prop
  | zero : IsWhole ['0']
  | digits {c : CodePoint} {t : Text} (hzero : c ≠ '0') (hdigits : AreDigits (c :: t)) :
      IsWhole (c :: t)

/-- The digits after the point, with the point. -/
inductive IsFraction : Option Text → Text → Prop
  | none : IsFraction none []
  | point {digits : Text} (hdigits : AreDigits digits) : IsFraction (some digits) ('.' :: digits)

/-- The sign of an exponent: whether it is negative. -/
inductive IsSign : Bool → Text → Prop
  | none : IsSign false []
  | plus : IsSign false ['+']
  | minus : IsSign true ['-']

/-- The sign and the digits of an exponent, with its letter in either case. -/
inductive IsExponent : Option (Bool × Text) → Text → Prop
  | none : IsExponent none []
  | letter {c : CodePoint} {negative : Bool} {sign digits : Text} (hletter : c = 'e' ∨ c = 'E')
      (hsign : IsSign negative sign) (hdigits : AreDigits digits) :
      IsExponent (some (negative, digits)) (c :: (sign ++ digits))

/-- The minus sign of a number that is negative. -/
def minus (negative : Bool) : Text :=
  if negative then ['-'] else []

/-- A number as it stands in a document, by its parts. -/
inductive Number.IsWritten : Number → Text → Prop
  | parts {negative : Bool} {whole fraction exponent : Text} {digits : Option Text}
      {power : Option (Bool × Text)} (hwhole : IsWhole whole)
      (hfraction : IsFraction digits fraction) (hexponent : IsExponent power exponent) :
      IsWritten ⟨negative, whole, digits, power⟩
        (minus negative ++ (whole ++ (fraction ++ exponent)))

/-! ## What follows a number -/

/-- What follows is no digit. -/
def EndsDigits (rest : Text) : Prop :=
  ∀ c ∈ rest.head?, c.isDigit = false

/-- What follows belongs to no fraction. -/
def EndsFraction (rest : Text) : Prop :=
  ∀ c ∈ rest.head?, c.isDigit = false ∧ c ≠ '.'

/-- What follows belongs to no exponent. -/
def EndsExponent (rest : Text) : Prop :=
  ∀ c ∈ rest.head?, c.isDigit = false ∧ c ≠ 'e' ∧ c ≠ 'E'

/-- What follows belongs to no number. -/
def EndsNumber (rest : Text) : Prop :=
  EndsFraction rest ∧ EndsExponent rest

variable {t rest : Text}

theorem EndsFraction.endsDigits (h : EndsFraction rest) : EndsDigits rest :=
  fun c hc => (h c hc).1

theorem EndsExponent.endsDigits (h : EndsExponent rest) : EndsDigits rest :=
  fun c hc => (h c hc).1

/-- An exponent or what follows it belongs to no fraction. -/
theorem IsExponent.endsFraction {power : Option (Bool × Text)} (h : IsExponent power t)
    (hrest : EndsFraction rest) : EndsFraction (t ++ rest) := by
  cases h with
  | none => exact hrest
  | letter hletter =>
    intro c hc
    obtain rfl := Option.some.inj hc
    rcases hletter with rfl | rfl <;> decide

/-- A fraction or what follows it is no digit. -/
theorem IsFraction.endsDigits {digits : Option Text} (h : IsFraction digits t)
    (hrest : EndsDigits rest) : EndsDigits (t ++ rest) := by
  cases h with
  | none => exact hrest
  | point =>
    intro c hc
    obtain rfl := Option.some.inj hc
    decide

/-! ## What is derived is read -/

/-- Readers take the same code points for digits. -/
theorem areDigits_iff : AreDigits t ↔ t ≠ [] ∧ t.all CodePoint.isDigit = true := by
  simp only [AreDigits, List.all_eq_true, isDigit_iff]

theorem AreDigits.all_isDigit (h : AreDigits t) : t.all CodePoint.isDigit = true :=
  (areDigits_iff.mp h).2

theorem AreDigits.isDigit_head {c : CodePoint} (h : AreDigits (c :: t)) : c.isDigit = true :=
  isDigit_iff.mpr (h.2 c List.mem_cons_self)

theorem readDigits_exact (ht : t.all CodePoint.isDigit = true) (hrest : EndsDigits rest) :
    readDigits (t ++ rest) = (t, rest) := by
  rw [readDigits_eq, Text.takeWhile_append_of_all ht hrest, Text.dropWhile_append_of_all ht hrest]

theorem readWhole?_of_isWhole (h : IsWhole t) (hrest : EndsDigits rest) :
    readWhole? (t ++ rest) = some (t, rest) := by
  cases h with
  | zero => rfl
  | @digits c t hzero hdigits =>
    rw [List.cons_append, readWhole?, if_neg hzero, if_pos hdigits.isDigit_head,
      ← List.cons_append, readDigits_exact hdigits.all_isDigit hrest]

theorem readFraction_of_isFraction {digits : Option Text} (h : IsFraction digits t)
    (hrest : EndsFraction rest) : readFraction (t ++ rest) = (digits, rest) := by
  cases h with
  | none =>
    cases rest with
    | nil => rfl
    | cons c rest =>
      have hc : c ≠ '.' := (hrest c rfl).2
      rw [List.nil_append, readFraction]
      split
      · rfl
      · rw [if_neg hc]
  | @point digits hdigits =>
    rw [List.cons_append, readFraction, readDigits_exact hdigits.all_isDigit hrest.endsDigits]
    split
    next hnil => exact absurd (congrArg Prod.fst hnil) hdigits.1
    next hsome =>
      obtain ⟨rfl, rfl⟩ := Prod.mk.inj hsome
      rfl

theorem readSign_of_isSign {negative : Bool} {digits : Text} (h : IsSign negative t)
    (hdigits : AreDigits digits) :
    readSign (t ++ (digits ++ rest)) = (negative, digits ++ rest) := by
  cases h with
  | plus => rfl
  | minus => rfl
  | none =>
    -- the digit that comes next is no sign
    cases digits with
    | nil => exact absurd rfl hdigits.1
    | cons c digits =>
      have hc := hdigits.isDigit_head
      have hminus : c ≠ '-' := by
        rintro rfl
        exact absurd hc (by decide)
      have hplus : c ≠ '+' := by
        rintro rfl
        exact absurd hc (by decide)
      rw [List.nil_append, List.cons_append, readSign, if_neg hminus, if_neg hplus]

theorem readExponent_of_isExponent {power : Option (Bool × Text)} (h : IsExponent power t)
    (hrest : EndsExponent rest) : readExponent (t ++ rest) = (power, rest) := by
  cases h with
  | none =>
    cases rest with
    | nil => rfl
    | cons c rest =>
      have hc : (c = 'e' || c = 'E') = false := by simpa using (hrest c rfl).2
      rw [List.nil_append, readExponent]
      dsimp only
      split
      · rfl
      · rw [hc]
        rfl
  | @letter c negative sign digits hletter hsign hdigits =>
    have hc : (c = 'e' || c = 'E') = true := by simpa using hletter
    rw [List.cons_append, List.append_assoc, readExponent, readSign_of_isSign hsign hdigits]
    dsimp only
    rw [readDigits_exact hdigits.all_isDigit hrest.endsDigits]
    split
    next hnil => exact absurd (congrArg Prod.fst hnil) hdigits.1
    next hsome =>
      obtain ⟨rfl, rfl⟩ := Prod.mk.inj hsome
      rw [hc]
      rfl

theorem IsWhole.eq_cons (h : IsWhole t) : ∃ c u, t = c :: u ∧ c.isDigit = true := by
  cases h with
  | zero => exact ⟨_, _, rfl, by decide⟩
  | digits _ hdigits => exact ⟨_, _, rfl, hdigits.isDigit_head⟩

theorem IsWhole.mem_decimals (h : IsWhole t) : ∀ c ∈ t, c ∈ decimals := by
  cases h with
  | zero => exact List.forall_mem_singleton.mpr (by decide)
  | digits _ hdigits => exact hdigits.2

theorem IsWhole.head_ne_minus (h : IsWhole t) : (t ++ rest).head? ≠ some ('-' : CodePoint) := by
  obtain ⟨c, u, rfl, hdigit⟩ := h.eq_cons
  intro hc
  obtain rfl : c = '-' := Option.some.inj hc
  exact absurd hdigit (by decide)

theorem Number.IsWritten.isWhole {n : Number} (h : n.IsWritten t) : IsWhole n.whole := by
  cases h with
  | parts hwhole => exact hwhole

/-- A number begins with a digit, or with a minus sign and a digit. -/
theorem Number.IsWritten.eq_cons {n : Number} (h : n.IsWritten t) :
    ∃ c u, c.isDigit = true ∧ (t = c :: u ∨ t = ('-' : CodePoint) :: c :: u) := by
  obtain @⟨negative, whole, fraction, exponent, -, -, hwhole, -, -⟩ := h
  obtain ⟨c, u, rfl, hc⟩ := hwhole.eq_cons
  refine ⟨c, u ++ (fraction ++ exponent), hc, ?_⟩
  cases negative with
  | true => exact .inr rfl
  | false => exact .inl rfl

/-- The reader of numbers after the minus sign. -/
def readUnsigned? (negative : Bool) (t : Text) : Option (Number × Text) :=
  (readWhole? t).map fun (whole, rest) =>
    let (fraction, rest) := readFraction rest
    let (exponent, rest) := readExponent rest
    (⟨negative, whole, fraction, exponent⟩, rest)

theorem readNumber?_minus (t : Text) : readNumber? ('-' :: t) = readUnsigned? true t :=
  rfl

theorem readNumber?_of_ne_minus (h : t.head? ≠ some ('-' : CodePoint)) :
    readNumber? t = readUnsigned? false t := by
  unfold readNumber?
  dsimp only
  rw [if_neg h, decide_eq_false h]
  rfl

/-- **What the grammar derives is read**, if what follows cannot belong to a number. -/
theorem readNumber?_of_isWritten {n : Number} (h : n.IsWritten t) (hrest : EndsNumber rest) :
    readNumber? (t ++ rest) = some (n, rest) := by
  obtain @⟨negative, whole, fraction, exponent, digits, power, hwhole, hfraction, hexponent⟩ := h
  -- every part ends where the next one begins, or where the number does
  have hafter := hexponent.endsFraction hrest.1
  have hunsigned : readUnsigned? negative (whole ++ (fraction ++ (exponent ++ rest))) =
      some (⟨negative, whole, digits, power⟩, rest) := by
    rw [readUnsigned?, readWhole?_of_isWhole hwhole (hfraction.endsDigits hafter.endsDigits),
      Option.map_some]
    dsimp only
    rw [readFraction_of_isFraction hfraction hafter]
    dsimp only
    rw [readExponent_of_isExponent hexponent hrest.2]
  simp only [List.append_assoc]
  cases negative with
  | true => exact hunsigned
  | false => exact (readNumber?_of_ne_minus hwhole.head_ne_minus).trans hunsigned

/-! ## What is read is derived -/

theorem areDigits_readDigits {c : CodePoint} {digits : Text}
    (h : readDigits t = (c :: digits, rest)) :
    t = c :: digits ++ rest ∧ AreDigits (c :: digits) := by
  have happend := readDigits_append t
  have hall := all_isDigit_readDigits t
  rw [h] at happend hall
  exact ⟨happend.symm, areDigits_iff.mpr ⟨List.cons_ne_nil _ _, hall⟩⟩

theorem isWhole_of_readWhole? {whole : Text} (h : readWhole? t = some (whole, rest)) :
    t = whole ++ rest ∧ IsWhole whole := by
  cases t with
  | nil => cases h
  | cons c t =>
    rw [readWhole?] at h
    split at h
    next hzero =>
      obtain ⟨rfl, rfl⟩ := Prod.mk.inj (Option.some.inj h)
      exact ⟨rfl, hzero ▸ .zero⟩
    next hzero =>
      split at h
      next hc =>
        have hdigits := Option.some.inj h
        have hcons : whole = c :: t.takeWhile CodePoint.isDigit := by
          rw [readDigits_eq, List.takeWhile_cons_of_pos hc] at hdigits
          exact (congrArg Prod.fst hdigits).symm
        subst hcons
        obtain ⟨ht, hall⟩ := areDigits_readDigits hdigits
        exact ⟨ht, .digits hzero hall⟩
      next => cases h

theorem isFraction_of_readFraction {digits : Option Text} (h : readFraction t = (digits, rest)) :
    ∃ u, t = u ++ rest ∧ IsFraction digits u := by
  cases t with
  | nil =>
    obtain ⟨rfl, rfl⟩ := Prod.mk.inj h
    exact ⟨[], rfl, .none⟩
  | cons c t =>
    rw [readFraction] at h
    split at h
    next =>
      obtain ⟨rfl, rfl⟩ := Prod.mk.inj h
      exact ⟨[], rfl, .none⟩
    next found after hne hread =>
      split at h
      next hpoint =>
        obtain ⟨rfl, rfl⟩ := Prod.mk.inj h
        obtain ⟨d, ds, rfl⟩ := List.exists_cons_of_ne_nil hne
        obtain ⟨rfl, hall⟩ := areDigits_readDigits hread
        exact ⟨_, by rw [hpoint]; rfl, .point hall⟩
      next =>
        obtain ⟨rfl, rfl⟩ := Prod.mk.inj h
        exact ⟨[], rfl, .none⟩

theorem isSign_readSign (t : Text) : ∃ u, t = u ++ (readSign t).2 ∧ IsSign (readSign t).1 u := by
  cases t with
  | nil => exact ⟨[], rfl, .none⟩
  | cons c t =>
    rw [readSign]
    split
    next hminus => exact ⟨['-'], by rw [hminus]; rfl, .minus⟩
    next =>
      split
      next hplus => exact ⟨['+'], by rw [hplus]; rfl, .plus⟩
      next => exact ⟨[], rfl, .none⟩

theorem isExponent_of_readExponent {power : Option (Bool × Text)}
    (h : readExponent t = (power, rest)) : ∃ u, t = u ++ rest ∧ IsExponent power u := by
  cases t with
  | nil =>
    obtain ⟨rfl, rfl⟩ := Prod.mk.inj h
    exact ⟨[], rfl, .none⟩
  | cons c t =>
    obtain ⟨sign, ht, hsign⟩ := isSign_readSign t
    rw [readExponent] at h
    dsimp only at h
    split at h
    next =>
      obtain ⟨rfl, rfl⟩ := Prod.mk.inj h
      exact ⟨[], rfl, .none⟩
    next found after hne hread =>
      split at h
      next hletter =>
        obtain ⟨rfl, rfl⟩ := Prod.mk.inj h
        obtain ⟨d, ds, rfl⟩ := List.exists_cons_of_ne_nil hne
        obtain ⟨hsignless, hall⟩ := areDigits_readDigits hread
        refine ⟨c :: (sign ++ (d :: ds)), ?_, .letter (by simpa using hletter) hsign hall⟩
        rw [ht, hsignless]
        simp only [List.cons_append, List.append_assoc]
      next =>
        obtain ⟨rfl, rfl⟩ := Prod.mk.inj h
        exact ⟨[], rfl, .none⟩

theorem isWritten_of_readUnsigned? {negative : Bool} {n : Number}
    (h : readUnsigned? negative t = some (n, rest)) :
    ∃ u, t = u ++ rest ∧ n.IsWritten (minus negative ++ u) := by
  obtain ⟨⟨whole, afterWhole⟩, hread, heq⟩ := Option.map_eq_some_iff.mp h
  obtain ⟨rfl, hwhole⟩ := isWhole_of_readWhole? hread
  dsimp only at heq
  generalize hreadFraction : readFraction afterWhole = read at heq
  obtain ⟨digits, afterFraction⟩ := read
  obtain ⟨fraction, rfl, hfraction⟩ := isFraction_of_readFraction hreadFraction
  dsimp only at heq
  generalize hreadExponent : readExponent afterFraction = read at heq
  obtain ⟨power, afterExponent⟩ := read
  obtain ⟨exponent, rfl, hexponent⟩ := isExponent_of_readExponent hreadExponent
  obtain ⟨rfl, rfl⟩ := Prod.mk.inj heq
  exact ⟨whole ++ (fraction ++ exponent), by simp only [List.append_assoc],
    .parts hwhole hfraction hexponent⟩

/-- **Whatever is read is derived** by the grammar. -/
theorem isWritten_of_readNumber? {n : Number} (h : readNumber? t = some (n, rest)) :
    ∃ u, t = u ++ rest ∧ n.IsWritten u := by
  by_cases hminus : t.head? = some ('-' : CodePoint)
  · obtain ⟨t', rfl⟩ := List.head?_eq_some_iff.mp hminus
    obtain ⟨u, rfl, hu⟩ := isWritten_of_readUnsigned? ((readNumber?_minus t').symm.trans h)
    exact ⟨'-' :: u, rfl, hu⟩
  · obtain ⟨u, rfl, hu⟩ :=
      isWritten_of_readUnsigned? ((readNumber?_of_ne_minus hminus).symm.trans h)
    exact ⟨u, rfl, hu⟩

end Json

end ShapeInference
