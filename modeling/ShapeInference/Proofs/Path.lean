import ShapeInference.Inference.Path
import ShapeInference.Proofs.Grammar.Literal
import ShapeInference.Proofs.Writing

/-!
# Paths are read back

A path is written as a dollar sign and its steps, and each step says by its first code points which
form it has: a point before an identifier, a bracket and a quote before a literal, a bracket and a
digit before an index. An identifier ends where the next step begins, the other two at their closing
brackets. So a path is read back step by step, whatever stands in the names.

- `Text.digitsValue_ofNat`: the digits of a numeral are read back;
- `Step.read?`: the step that a text begins with, and what follows it;
- `Path.read?`: the path that a text writes;
- `Step.read?_write_append`: a step is read back, and what follows is left;
- `Path.read?_write`: a path is read back;
- `Path.isAscii_write`: paths are written in ASCII.
-/

namespace ShapeInference

/-! ## Numerals -/

namespace Text

theorem val_ofDigit {d : Nat} (hd : d < 10) : (CodePoint.ofDigit d).val = 0x30 + d := by
  rw [CodePoint.ofDigit, if_pos hd, CodePoint.val_ofNat (by omega)]

theorem isDigit_ofDigit {d : Nat} (hd : d < 10) : (CodePoint.ofDigit d).isDigit = true := by
  simp only [CodePoint.isDigit, val_ofDigit hd, Bool.and_eq_true, decide_eq_true_iff]
  omega

/-- The number that decimal digits write, least significant first. -/
theorem digitsValue_reverse_cons (c : CodePoint) (t : Text) :
    digitsValue (c :: t).reverse = digitsValue t.reverse * 10 + (c.val - 0x30) := by
  rw [digitsValue, List.reverse_cons, List.foldl_append]
  rfl

/-- Digits are read back if there is room for all of them. -/
theorem digitsValue_reverseDigits : ∀ {fuel n : Nat}, n < 10 ^ fuel →
    digitsValue (reverseDigits fuel n).reverse = n
  | 0, n, h => by
    obtain rfl : n = 0 := by simpa using h
    rfl
  | fuel + 1, n, h => by
    rw [reverseDigits]
    split
    next hn =>
      show 0 * 10 + ((CodePoint.ofDigit n).val - 0x30) = n
      rw [val_ofDigit hn]
      omega
    next hn =>
      have hdigit : n % 10 < 10 := Nat.mod_lt n (by decide)
      have hrest : n / 10 < 10 ^ fuel := by
        rw [Nat.div_lt_iff_lt_mul (by decide), ← Nat.pow_succ]
        exact h
      rw [digitsValue_reverse_cons, digitsValue_reverseDigits hrest, val_ofDigit hdigit]
      omega

theorem all_isDigit_reverseDigits : ∀ fuel n : Nat,
    (reverseDigits fuel n).all CodePoint.isDigit = true
  | 0, _ => rfl
  | fuel + 1, n => by
    rw [reverseDigits]
    split
    next hn => rw [List.all_cons, isDigit_ofDigit hn, List.all_nil, Bool.and_true]
    next =>
      rw [List.all_cons, isDigit_ofDigit (Nat.mod_lt n (by decide)), all_isDigit_reverseDigits,
        Bool.and_true]

/-- **The digits of a numeral are read back.** -/
theorem digitsValue_ofNat (n : Nat) : digitsValue (ofNat n) = n := by
  refine digitsValue_reverseDigits ?_
  calc n < 2 ^ (n.log2 + 1) := Nat.lt_log2_self
    _ ≤ 10 ^ (n.log2 + 1) := Nat.pow_le_pow_left (by decide) _

theorem all_isDigit_ofNat (n : Nat) : (ofNat n).all CodePoint.isDigit = true := by
  rw [ofNat, List.all_reverse]
  exact all_isDigit_reverseDigits _ n

theorem ofNat_ne_nil (n : Nat) : ofNat n ≠ [] := by
  rw [ofNat, Ne, List.reverse_eq_nil_iff, reverseDigits]
  split <;> exact List.cons_ne_nil _ _

end Text

/-! ## Steps and paths -/

namespace Step

open Text

/-- The step for an identifier after its point, and what follows it. -/
def readIdentifier? (t : Text) : Option (Step × Text) :=
  if Text.isIdentifier (t.takeWhile CodePoint.continuesIdentifier) then
    some (.member (t.takeWhile CodePoint.continuesIdentifier),
      t.dropWhile CodePoint.continuesIdentifier)
  else none

/-- The step for a string literal after its bracket and its opening quote, and what follows it. -/
def readQuoted? (t : Text) : Option (Step × Text) :=
  match Json.readLiteral t with
  | .ok (name, rest) => (dropStart? "]" rest).map (.member name, ·)
  | .error _ => none

/-- The step for an index after its bracket, and what follows it. -/
def readIndex? (t : Text) : Option (Step × Text) :=
  if (t.takeWhile CodePoint.isDigit).isEmpty then none
  else (dropStart? "]" (t.dropWhile CodePoint.isDigit)).map
    (.element (digitsValue (t.takeWhile CodePoint.isDigit)), ·)

/-- The step that a text begins with, and what follows it. -/
def read? (t : Text) : Option (Step × Text) :=
  match dropStart? "." t, dropStart? "[\"" t, dropStart? "[" t with
  | some rest, _, _ => readIdentifier? rest
  | none, some rest, _ => readQuoted? rest
  | none, none, some rest => readIndex? rest
  | none, none, none => none

/-- Whether a step can be read back: in the name of a member no first half of a surrogate pair has a
second half right after it. -/
def isReadable : Step → Bool
  | .member name => name.isUnpaired
  | .element _ => true

/-- Whether a text is at its end or goes on with a step. -/
def GoesOn (t : Text) : Prop :=
  GoesOnWith ".[" t

theorem goesOn_write_append (step : Step) (rest : Text) : GoesOn (step.write ++ rest) := by
  have hpoint : ('.' : CodePoint) ∈ (".[" : Text) := by decide
  have hbracket : ('[' : CodePoint) ∈ (".[" : Text) := by decide
  unfold write
  cases step with
  | member name =>
    dsimp only
    split
    · exact goesOnWith_cons.mpr hpoint
    · exact goesOnWith_cons.mpr hbracket
  | element index => exact goesOnWith_cons.mpr hbracket

/-- What begins a step belongs neither to an identifier nor to a numeral. -/
theorem GoesOn.stops {rest : Text} (h : GoesOn rest) :
    ∀ c ∈ rest.head?, c.continuesIdentifier = false := by
  have hnone : List.any (".[" : Text) CodePoint.continuesIdentifier = false := by decide
  exact fun c hc => Bool.eq_false_iff.mpr (List.any_eq_false.mp hnone c (h c hc))

variable {name rest : Text}

theorem readIdentifier?_append (hname : name.isIdentifier = true) (hrest : GoesOn rest) :
    readIdentifier? (name ++ rest) = some (.member name, rest) := by
  have hall := all_of_isIdentifier hname
  rw [readIdentifier?, takeWhile_append_of_all hall hrest.stops,
    dropWhile_append_of_all hall hrest.stops, if_pos hname]

theorem readQuoted?_append (hname : name.isUnpaired = true) (rest : Text) :
    readQuoted? (name.flatMap (Literal.escape true) ++ ('"' : CodePoint) :: (("]" : Text) ++ rest))
      = some (.member name, rest) := by
  rw [readQuoted?, Json.readLiteral_write hname]
  dsimp only
  rw [dropStart?_append]
  rfl

theorem readIndex?_append (index : Nat) (rest : Text) :
    readIndex? (ofNat index ++ (("]" : Text) ++ rest)) = some (.element index, rest) := by
  have hall := all_isDigit_ofNat index
  have hbracket : ∀ c ∈ (("]" : Text) ++ rest).head?, c.isDigit = false := by
    intro c hc
    obtain rfl : ((']' : Char) : CodePoint) = c := Option.some.inj hc
    decide
  have hsome : ¬(ofNat index).isEmpty = true := mt List.isEmpty_iff.mp (ofNat_ne_nil index)
  rw [readIndex?, takeWhile_append_of_all hall hbracket, dropWhile_append_of_all hall hbracket,
    if_neg hsome, dropStart?_append, digitsValue_ofNat]
  rfl

/-- **A step is read back**, and what follows it is left. -/
theorem read?_write_append {step : Step} (hstep : step.isReadable = true) (hrest : GoesOn rest) :
    read? (step.write ++ rest) = some (step, rest) := by
  cases step with
  | member name =>
    rw [write]
    split
    next hname => exact readIdentifier?_append hname hrest
    next =>
      rw [List.append_assoc, List.append_assoc, Literal.write]
      show readQuoted? ((name.flatMap (Literal.escape true) ++ ("\"" : Text))
        ++ (("]" : Text) ++ rest)) = _
      rw [List.append_assoc]
      exact readQuoted?_append hstep rest
  | element index =>
    rw [write, List.append_assoc, List.append_assoc]
    -- an index begins with a digit and no quote
    obtain ⟨c, digits, hdigits⟩ := List.exists_cons_of_ne_nil (ofNat_ne_nil index)
    have hc : c.isDigit = true := by
      have hall := all_isDigit_ofNat index
      rw [hdigits, List.all_cons, Bool.and_eq_true] at hall
      exact hall.1
    have hquote : ¬('"' : CodePoint) = c := by
      rintro rfl
      revert hc
      decide
    have hliteral : dropStart? "[\"" (("[" : Text) ++ (ofNat index ++ (("]" : Text) ++ rest)))
        = none := by
      rw [hdigits]
      show (if ('"' : CodePoint) = c then _ else none) = none
      exact if_neg hquote
    unfold read?
    rw [hliteral]
    exact readIndex?_append index rest

/-! ### Steps in ASCII -/

theorem isAscii_append (t u : Text) : (t ++ u).isAscii = (t.isAscii && u.isAscii) :=
  List.all_append

theorem isAscii_of_isPlain {t : Text} (h : t.all CodePoint.isPlain = true) : t.isAscii = true := by
  refine List.all_eq_true.mpr fun c hc => ?_
  have hplain := List.all_eq_true.mp h c hc
  simp only [CodePoint.isPlain, Bool.and_eq_true, decide_eq_true_iff] at hplain
  exact decide_eq_true (by omega)

theorem isAscii_of_shortEscape? {c letter : CodePoint} (h : Literal.shortEscape? c = some letter) :
    Text.isAscii ['\\', letter] = true := by
  unfold Literal.shortEscape? at h
  split_ifs at h <;> (obtain rfl := Option.some.inj h; decide)

/-- What is restricted to ASCII is in ASCII. -/
theorem isAscii_escape (c : CodePoint) : Text.isAscii (Literal.escape true c) = true := by
  unfold Literal.escape
  cases hshort : Literal.shortEscape? c with
  | some letter => exact isAscii_of_shortEscape? hshort
  | none =>
    dsimp only
    split
    next =>
      unfold Literal.escapeNumber
      split
      · exact isAscii_of_isPlain (Literal.isPlain_escapeUnit _)
      · rw [isAscii_append, isAscii_of_isPlain (Literal.isPlain_escapeUnit _),
          isAscii_of_isPlain (Literal.isPlain_escapeUnit _)]
        rfl
    next hself =>
      simp only [Bool.or_eq_true, Bool.true_and, decide_eq_true_iff, not_or] at hself
      have hascii : c.val < 0x80 := by omega
      simp [Text.isAscii, hascii]

/-- **Steps are written in ASCII.** -/
theorem isAscii_write (step : Step) : step.write.isAscii = true := by
  have hopen : Text.isAscii ("[" : Text) = true := by decide
  have hclose : Text.isAscii ("]" : Text) = true := by decide
  have hquote : Text.isAscii ("\"" : Text) = true := by decide
  cases step with
  | member name =>
    rw [write]
    split
    next hname =>
      have hplain := isAscii_of_isPlain (Text.isPlain_of_isIdentifier hname)
      exact (isAscii_append "." name).trans (by rw [hplain]; decide)
    next =>
      have hbody : Text.isAscii (name.flatMap (Literal.escape true)) = true := by
        rw [Text.isAscii, List.all_flatMap, List.all_eq_true]
        exact fun c _ => isAscii_escape c
      have hliteral : Text.isAscii (Literal.write true name) = true := by
        have happend := isAscii_append ("\"" : Text) (name.flatMap (Literal.escape true) ++ ("\"" : Text))
        exact happend.trans (by rw [isAscii_append, hbody, hquote]; rfl)
      rw [isAscii_append, isAscii_append, hopen, hliteral, hclose]
      rfl
  | element index =>
    have hdigits : Text.isAscii (ofNat index) = true := by
      refine List.all_eq_true.mpr fun c hc => ?_
      have hdigit := List.all_eq_true.mp (all_isDigit_ofNat index) c hc
      simp only [CodePoint.isDigit, Bool.and_eq_true, decide_eq_true_iff] at hdigit
      exact decide_eq_true (by omega)
    rw [write, isAscii_append, isAscii_append, hopen, hdigits, hclose]
    rfl

end Step

namespace Path

/-- The steps that a text writes one after the other, with `fuel` bounding their number. -/
def readSteps? : Nat → Text → Option Path
  | _, [] => some []
  | 0, _ :: _ => none
  | fuel + 1, c :: t => do
    let (step, rest) ← Step.read? (c :: t)
    let steps ← readSteps? fuel rest
    return step :: steps

/-- The path that a text writes: a dollar sign and steps. -/
def read? (t : Text) : Option Path :=
  (Text.dropStart? "$" t).bind fun rest => readSteps? rest.length rest

variable {p : Path}

theorem step_write_ne_nil (step : Step) : step.write ≠ [] := by
  unfold Step.write
  cases step with
  | member name =>
    dsimp only
    split <;> exact List.cons_ne_nil _ _
  | element index => exact List.cons_ne_nil _ _

theorem goesOn_flatMap_write (p : Path) : Step.GoesOn (p.flatMap Step.write) := by
  cases p with
  | nil =>
    intro c hc
    cases hc
  | cons step rest =>
    rw [List.flatMap_cons]
    exact Step.goesOn_write_append step _

/-- Steps are read back one after the other if there is room for all of them. -/
theorem readSteps?_flatMap_write (hp : p.all Step.isReadable = true) : ∀ {fuel : Nat},
    p.length ≤ fuel → readSteps? fuel (p.flatMap Step.write) = some p := by
  induction p with
  | nil =>
    intro fuel _
    cases fuel <;> rfl
  | cons step rest ih =>
    obtain ⟨hstep, hrest⟩ := (Bool.and_eq_true _ _).mp hp
    intro fuel hfuel
    obtain ⟨fuel, rfl⟩ : ∃ n, fuel = n + 1 := Nat.exists_eq_add_one_of_ne_zero (by
      rw [List.length_cons] at hfuel
      omega)
    have hread := Step.read?_write_append hstep (goesOn_flatMap_write rest)
    obtain ⟨c, t, hwritten⟩ := List.exists_cons_of_ne_nil (step_write_ne_nil step)
    rw [List.flatMap_cons]
    rw [hwritten, List.cons_append] at hread ⊢
    have hsteps := ih hrest (Nat.le_of_succ_le_succ hfuel)
    simp only [readSteps?, hread, hsteps, Option.bind_eq_bind, Option.bind_some, Option.pure_def]

theorem length_le_length_flatMap_write (p : Path) : p.length ≤ (p.flatMap Step.write).length := by
  induction p with
  | nil => exact Nat.le_refl 0
  | cons step rest ih =>
    have hstep := List.length_pos_of_ne_nil (step_write_ne_nil step)
    rw [List.flatMap_cons, List.length_append, List.length_cons]
    omega

/-- **A path is read back** from its text. -/
theorem read?_write (hp : p.all Step.isReadable = true) : read? p.write = some p := by
  have hdrop : Text.dropStart? "$" p.write = some (p.flatMap Step.write) := rfl
  rw [read?, hdrop, Option.bind_some]
  exact readSteps?_flatMap_write hp (length_le_length_flatMap_write p)

/-- **Paths are written in ASCII.** -/
theorem isAscii_write (p : Path) : p.write.isAscii = true := by
  have hsteps : Text.isAscii (p.flatMap Step.write) = true := by
    rw [Text.isAscii, List.all_flatMap, List.all_eq_true]
    exact fun step _ => step.isAscii_write
  have hdollar : Text.isAscii ("$" : Text) = true := by decide
  have happend := Step.isAscii_append "$" (p.flatMap Step.write)
  rw [hdollar, hsteps] at happend
  exact happend

end Path

end ShapeInference
