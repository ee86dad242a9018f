import ShapeInference.Proofs.Except
import ShapeInference.Proofs.Grammar.Digit
import ShapeInference.Proofs.Literal
import ShapeInference.Proofs.Reading

/-!
# The grammar of string literals

Between its quotes a string literal is a row of symbols: a code point that stands for itself, a
backslash with a letter, or a backslash with `u` and four hexadecimal digits. Each symbol says one
code point, and only where two numbers in a row are the halves of a surrogate pair do they say one
code point together. The reader of literals accepts what this grammar derives and nothing else.

- `Json.Symbol`: what one symbol says;
- `Json.Spells`: the grammar: a text is a row of symbols;
- `Json.Symbol.join`: the text that a row of symbols says;
- `Json.IsLiteral`: a text is a string literal that says another text;
- `Json.readLiteral_of_spells`: what the grammar derives is read as what it says;
- `Json.spells_of_readLiteral`: whatever is read is derived by the grammar;
- `Json.isLiteral_write`: a literal that is written for a text says that text.
-/

namespace ShapeInference

namespace Json

/-! ## The grammar -/

/-- What one symbol of a string literal says: a code point, or the number of one. -/
inductive Symbol where
  | plain (c : CodePoint)
  | numeric (c : CodePoint)
  deriving DecidableEq, Repr

namespace Symbol

/-- The code point of a symbol. -/
def point : Symbol → CodePoint
  | plain c => c
  | numeric c => c

/-- Whether a symbol is the number of the first half of a surrogate pair. -/
def isHigh : Symbol → Bool
  | plain _ => false
  | numeric c => 0xD800 ≤ c.val && c.val ≤ 0xDBFF

/-- Whether a symbol is the number of the second half of a surrogate pair. -/
def isLow : Symbol → Bool
  | plain _ => false
  | numeric c => 0xDC00 ≤ c.val && c.val ≤ 0xDFFF

/-- The code point beyond `0xFFFF` that the halves of a surrogate pair say. Both tell ten of its
bits. -/
def pair (high low : CodePoint) : CodePoint :=
  .ofNat (0x10000 + (high.val - 0xD800) * 0x400 + (low.val - 0xDC00))

/-- The text that symbols say: the numbers of both halves of a surrogate pair, one right after the
other, are one code point. -/
def join : List Symbol → Text
  | [] => []
  | [x] => [x.point]
  | x :: y :: rest =>
    if x.isHigh && y.isLow then pair x.point y.point :: join rest
    else x.point :: join (y :: rest)

end Symbol

/-- The letters that stand after a backslash, each with the code point that it says. -/
def letters : List (CodePoint × CodePoint) :=
  [('"', '"'), ('\\', '\\'), ('/', '/'), ('b', .ofNat 0x08), ('f', .ofNat 0x0C),
    ('n', .ofNat 0x0A), ('r', .ofNat 0x0D), ('t', .ofNat 0x09)]

/-- A text is a row of symbols. What stands for itself is neither a control character nor a quote
nor a backslash. -/
inductive Spells : List Symbol → Text → Prop
  | nil : Spells [] []
  | unescaped {c : CodePoint} {symbols : List Symbol} {t : Text} (hcontrol : 0x20 ≤ c.val)
      (hquote : c ≠ '"') (hslash : c ≠ '\\') (h : Spells symbols t) :
      Spells (.plain c :: symbols) (c :: t)
  | letter {letter c : CodePoint} {symbols : List Symbol} {t : Text}
      (hletter : (letter, c) ∈ letters) (h : Spells symbols t) :
      Spells (.plain c :: symbols) ('\\' :: letter :: t)
  | numeric {a b c d : CodePoint} {i j k l : Nat} {symbols : List Symbol} {t : Text}
      (ha : IsHexDigit a i) (hb : IsHexDigit b j) (hc : IsHexDigit c k) (hd : IsHexDigit d l)
      (h : Spells symbols t) :
      Spells (.numeric (.ofNat (i * 0x1000 + j * 0x100 + k * 0x10 + l)) :: symbols)
        ('\\' :: 'u' :: a :: b :: c :: d :: t)

/-- A text is a string literal, which says another text. -/
def IsLiteral (literal t : Text) : Prop :=
  ∃ symbols inside, literal = ('"' : CodePoint) :: (inside ++ ("\"" : Text)) ∧
    Spells symbols inside ∧ Symbol.join symbols = t

/-! ## What symbols say -/

namespace Symbol

variable {x y : Symbol} {held : Option CodePoint} {symbols : List Symbol}

/-- A symbol that begins no pair says its code point. -/
theorem join_cons (hx : x.isHigh = false) : join (x :: symbols) = x.point :: join symbols := by
  cases symbols with
  | nil => rfl
  | cons y rest =>
    rw [join, hx, Bool.false_and]
    rfl

/-- A symbol before one that completes no pair says its code point. -/
theorem join_cons_cons (hy : y.isLow = false) :
    join (x :: y :: symbols) = x.point :: join (y :: symbols) := by
  rw [join, hy, Bool.and_false]
  rfl

/-- The reader joins the halves of a pair to what they say. -/
theorem join_pair (hx : x.isHigh = true) (hy : y.isLow = true) :
    join (x :: y :: symbols) = CodePoint.joinSurrogates x.point y.point :: join symbols := by
  rw [join, hx, hy]
  rfl

/-- The text that symbols say after a number that was held back. -/
def joinAfter (held : Option CodePoint) (symbols : List Symbol) : Text :=
  join (held.toList.map numeric ++ symbols)

theorem joinAfter_nil (held : Option CodePoint) : joinAfter held [] = held.toList := by
  cases held <;> rfl

/-- What completes no pair lets go what was held back. -/
theorem joinAfter_cons (hx : held.isSome = true → x.isLow = false) :
    joinAfter held (x :: symbols) = held.toList ++ join (x :: symbols) := by
  cases held with
  | none => rfl
  | some high => exact join_cons_cons (hx rfl)

theorem joinAfter_plain (held : Option CodePoint) (c : CodePoint) (symbols : List Symbol) :
    joinAfter held (plain c :: symbols) = held.toList ++ c :: joinAfter none symbols := by
  rw [joinAfter_cons fun _ => rfl, join_cons rfl]
  rfl

/-- A number that completes no pair lets go what was held back, and may be held back itself. -/
theorem joinAfter_high {c : CodePoint} (hlow : held.isSome = true → ¬c.isLowSurrogate = true) :
    joinAfter held (numeric c :: symbols) = held.toList ++ joinAfter (some c) symbols :=
  joinAfter_cons fun hsome => Bool.eq_false_iff.mpr (hlow hsome)

theorem joinAfter_single {c : CodePoint} (hhigh : ¬c.isHighSurrogate = true)
    (hlow : held.isSome = true → ¬c.isLowSurrogate = true) :
    joinAfter held (numeric c :: symbols) = held.toList ++ c :: joinAfter none symbols := by
  have hbegins : (numeric c).isHigh = false := Bool.eq_false_iff.mpr hhigh
  have hends : held.isSome = true → (numeric c).isLow = false :=
    fun hsome => Bool.eq_false_iff.mpr (hlow hsome)
  rw [joinAfter_cons hends, join_cons hbegins]
  rfl

theorem joinAfter_low {high low : CodePoint} (hhigh : high.isHighSurrogate = true)
    (hlow : low.isLowSurrogate = true) : joinAfter (some high) (numeric low :: symbols) =
      CodePoint.joinSurrogates high low :: joinAfter none symbols :=
  join_pair hhigh hlow

end Symbol

/-! ## What is derived is read -/

open Json.Symbol

/-- The letters of the grammar are those that the reader knows. -/
theorem unescape?_of_mem_letters {letter c : CodePoint} (h : (letter, c) ∈ letters) :
    letter ≠ 'u' ∧ unescape? letter = some c := by
  have hall : letters.all
      (fun entry => entry.1 ≠ 'u' && unescape? entry.1 = some entry.2) = true := by
    decide
  simpa using List.all_eq_true.mp hall _ h

/-- **What the grammar derives is read**, after what was held back, as what it says. -/
theorem readLiteralAfter_of_spells (opening rest : Text) {symbols : List Symbol} {t : Text}
    (h : Spells symbols t) : ∀ held : Option CodePoint, (∀ c ∈ held, c.isHighSurrogate = true) →
      readLiteralAfter opening held (t ++ ('"' : CodePoint) :: rest)
        = .ok (joinAfter held symbols, rest) := by
  induction h with
  | nil =>
    intro held _
    rw [joinAfter_nil, List.nil_append, readLiteralAfter.eq_def]
    rfl
  | unescaped hcontrol hquote hslash _ ih =>
    intro held _
    rw [List.cons_append,
      readLiteralAfter_plain opening held hquote hslash (Nat.not_lt.mpr hcontrol),
      ih none (by simp), joinAfter_plain]
    rfl
  | letter hletter _ ih =>
    intro held _
    obtain ⟨hu, hc⟩ := unescape?_of_mem_letters hletter
    rw [List.cons_append, List.cons_append, readLiteralAfter_letter opening held hu hc,
      ih none (by simp), joinAfter_plain]
    rfl
  | @numeric a b c d i j k l symbols t ha hb hc hd _ ih =>
    intro held hheld
    have hdigits := hexValue?_iff.mpr ⟨i, j, k, l, ha, hb, hc, hd, rfl⟩
    generalize i * 0x1000 + j * 0x100 + k * 0x10 + l = n at hdigits ⊢
    have hnext : t ++ ('"' : CodePoint) :: rest ≠ [] := by simp
    have hstep := readLiteralAfter_numeric opening held hdigits hnext
    refine hstep.trans ?_
    by_cases hhigh : (CodePoint.ofNat n).isHighSurrogate = true
    · -- a second first half lets the one before it go
      have hlow := CodePoint.not_isLowSurrogate_of_isHighSurrogate hhigh
      rw [readNumeric_high opening held hhigh, ih (some (.ofNat n)) (by simpa using hhigh),
        joinAfter_high fun _ => hlow]
      rfl
    · by_cases hlow : (CodePoint.ofNat n).isLowSurrogate = true ∧ held.isSome = true
      · obtain ⟨high, rfl⟩ := Option.isSome_iff_exists.mp hlow.2
        rw [readNumeric_low opening high hlow.1, ih none (by simp),
          joinAfter_low (hheld high rfl) hlow.1]
        rfl
      · have hsingle : held.isSome = true → ¬(CodePoint.ofNat n).isLowSurrogate = true :=
          fun hsome hn => hlow ⟨hn, hsome⟩
        rw [readNumeric_single opening held hhigh hsingle, ih none (by simp),
          joinAfter_single hhigh hsingle]
        rfl

/-- **What the grammar derives is read** as what it says, and the rest of the text is left. -/
theorem readLiteral_of_spells {symbols : List Symbol} {t : Text} (h : Spells symbols t)
    (rest : Text) : readLiteral (t ++ ('"' : CodePoint) :: rest) = .ok (join symbols, rest) :=
  readLiteralAfter_of_spells _ rest h none (by simp)

/-! ## What is read is derived -/

/-- The letters that the reader knows are those of the grammar. -/
theorem mem_letters_of_unescape? {letter c : CodePoint} (h : unescape? letter = some c) :
    (letter, c) ∈ letters := by
  unfold unescape? at h
  split_ifs at h with hself hb hf hn hr ht
  all_goals obtain rfl := Option.some.inj h
  · simp only [Bool.or_eq_true, decide_eq_true_eq] at hself
    rcases hself with (rfl | rfl) | rfl <;> decide
  · subst hb
    decide
  · subst hf
    decide
  · subst hn
    decide
  · subst hr
    decide
  · subst ht
    decide

/-- A text is a row of symbols, a quote and a rest, and the symbols say a text after what was held
back. -/
def Derived (held : Option CodePoint) (t : Text) (read : Text × Text) : Prop :=
  ∃ symbols inside, t = inside ++ ('"' : CodePoint) :: read.2 ∧ Spells symbols inside ∧
    read.1 = joinAfter held symbols

section Derived

variable {held : Option CodePoint} {next : Text} {read : Text × Text}

/-- One more code point, by itself or after a backslash. -/
theorem Derived.plain {c : CodePoint} (written : Text) (h : Derived none next read)
    (hspells : ∀ {symbols t}, Spells symbols t → Spells (.plain c :: symbols) (written ++ t)) :
    Derived held (written ++ next) (release held (release (some c) read)) := by
  obtain ⟨symbols, inside, rfl, hinside, hread⟩ := h
  refine ⟨.plain c :: symbols, written ++ inside, (List.append_assoc ..).symm, hspells hinside, ?_⟩
  rw [joinAfter_plain, ← hread]
  rfl

/-- One more number, by the digits that were read. -/
theorem Spells.of_hexValue? {a b c d : CodePoint} {n : Nat} {symbols : List Symbol} {t : Text}
    (hdigits : Text.hexValue? [a, b, c, d] = some n) (h : Spells symbols t) :
    Spells (.numeric (.ofNat n) :: symbols) ('\\' :: 'u' :: a :: b :: c :: d :: t) := by
  obtain ⟨i, j, k, l, ha, hb, hc, hd, rfl⟩ := hexValue?_iff.mp hdigits
  exact .numeric ha hb hc hd h

section Numeric

variable {a b c d : CodePoint} {n : Nat} (hdigits : Text.hexValue? [a, b, c, d] = some n)
include hdigits

/-- One more number after nothing was held back. -/
theorem Derived.unheld (h : Derived (some (.ofNat n)) next read) :
    Derived none ('\\' :: 'u' :: a :: b :: c :: d :: next) read := by
  obtain ⟨symbols, inside, rfl, hinside, hread⟩ := h
  exact ⟨_, _, rfl, .of_hexValue? hdigits hinside, hread⟩

/-- One more number, which is held back. -/
theorem Derived.high (h : Derived (some (.ofNat n)) next read)
    (hlow : held.isSome = true → ¬(CodePoint.ofNat n).isLowSurrogate = true) :
    Derived held ('\\' :: 'u' :: a :: b :: c :: d :: next) (release held read) := by
  obtain ⟨symbols, inside, rfl, hinside, hread⟩ := h
  refine ⟨_, _, rfl, .of_hexValue? hdigits hinside, ?_⟩
  rw [joinAfter_high hlow, ← hread]
  rfl

/-- One more number that neither begins nor completes a pair. -/
theorem Derived.single (h : Derived none next read)
    (hhigh : ¬(CodePoint.ofNat n).isHighSurrogate = true)
    (hlow : held.isSome = true → ¬(CodePoint.ofNat n).isLowSurrogate = true) :
    Derived held ('\\' :: 'u' :: a :: b :: c :: d :: next)
      (release held (release (some (.ofNat n)) read)) := by
  obtain ⟨symbols, inside, rfl, hinside, hread⟩ := h
  refine ⟨_, _, rfl, .of_hexValue? hdigits hinside, ?_⟩
  rw [joinAfter_single hhigh hlow, ← hread]
  rfl

/-- One more number that completes a pair. -/
theorem Derived.low {high : CodePoint} (h : Derived none next read)
    (hhigh : high.isHighSurrogate = true) (hlow : (CodePoint.ofNat n).isLowSurrogate = true) :
    Derived (some high) ('\\' :: 'u' :: a :: b :: c :: d :: next)
      (release (some (CodePoint.joinSurrogates high (.ofNat n))) read) := by
  obtain ⟨symbols, inside, rfl, hinside, hread⟩ := h
  refine ⟨_, _, rfl, .of_hexValue? hdigits hinside, ?_⟩
  rw [joinAfter_low hhigh hlow, ← hread]
  rfl

end Numeric

end Derived

/-- **Whatever is read is derived**, after what was held back. -/
theorem derived_of_readLiteralAfter (opening : Text) (held : Option CodePoint) (t : Text) :
    (∀ c ∈ held, c.isHighSurrogate = true) →
      ∀ read, readLiteralAfter opening held t = .ok read → Derived held t read := by
  -- the cases left out are those that end with a flaw
  fun_induction readLiteralAfter opening held t with
  | case2 held rest =>
    intro _ read h
    obtain rfl := Except.ok.inj h
    exact ⟨[], [], rfl, .nil, (joinAfter_nil held).symm⟩
  | case4 a b c d n head tail hdigits unit high hlow _ ih =>
    intro hheld read h
    obtain ⟨after, hafter, rfl⟩ := Except.map_ok_iff.mp h
    exact (ih (by simp) after hafter).low hdigits (hheld high rfl) hlow
  | case5 a b c d n head tail hdigits unit high hlow hhigh _ ih =>
    intro _ read h
    obtain ⟨after, hafter, rfl⟩ := Except.map_ok_iff.mp h
    exact (ih (by simpa using hhigh) after hafter).high hdigits fun _ => hlow
  | case6 a b c d n head tail hdigits unit high hlow hhigh _ ih =>
    intro _ read h
    obtain ⟨after, hafter, rfl⟩ := Except.map_ok_iff.mp h
    exact (ih (by simp) after hafter).single hdigits hhigh fun _ => hlow
  | case7 a b c d n head tail hdigits unit hhigh _ ih =>
    intro _ read h
    exact (ih (by simpa using hhigh) read h).unheld hdigits
  | case8 a b c d n head tail hdigits unit hhigh _ ih =>
    intro _ read h
    obtain ⟨after, hafter, rfl⟩ := Except.map_ok_iff.mp h
    exact (ih (by simp) after hafter).single hdigits hhigh (by simp)
  | case12 held letter rest _ c hc _ ih =>
    intro _ read h
    obtain ⟨after, hafter, rfl⟩ := Except.map_ok_iff.mp h
    exact (ih (by simp) after hafter).plain ['\\', letter]
      (.letter (mem_letters_of_unescape? hc))
  | case14 held c rest hquote hslash hcontrol ih =>
    intro _ read h
    obtain ⟨after, hafter, rfl⟩ := Except.map_ok_iff.mp h
    exact (ih (by simp) after hafter).plain [c]
      (.unescaped (Nat.not_lt.mp hcontrol) hquote hslash)
  | _ => intro _ _ h; cases h

/-- **Whatever is read is derived** by the grammar: a row of symbols and a quote. -/
theorem spells_of_readLiteral {t name rest : Text} (h : readLiteral t = .ok (name, rest)) :
    ∃ symbols inside, t = inside ++ ('"' : CodePoint) :: rest ∧ Spells symbols inside ∧
      join symbols = name := by
  obtain ⟨symbols, inside, ht, hinside, hname⟩ :=
    derived_of_readLiteralAfter _ none t (by simp) _ h
  exact ⟨symbols, inside, ht, hinside, hname.symm⟩

/-- **A literal that is written for a text says that text**, with or without the restriction to
ASCII, unless the halves of a surrogate pair follow each other in the text. -/
theorem isLiteral_write {t : Text} (h : t.isUnpaired = true) (ascii : Bool) :
    IsLiteral (Literal.write ascii t) t := by
  obtain ⟨symbols, inside, hwritten, hinside, hjoin⟩ :=
    spells_of_readLiteral (readLiteral_write h ascii [])
  obtain rfl := List.append_cancel_right hwritten
  exact ⟨symbols, _, rfl, hinside, hjoin⟩

end Json

end ShapeInference
