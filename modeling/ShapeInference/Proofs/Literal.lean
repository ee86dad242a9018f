import Mathlib.Tactic.Ring
import ShapeInference.Json.Decode
import ShapeInference.Text.Literal

/-!
# Reading literals back

A string literal is read back as the text that it was written for, with or without the restriction
to ASCII. The one exception are texts in which the halves of a surrogate pair follow each other:
written as two escapes they are read as one code point.

- `Text.isUnpaired`: no first half of a surrogate pair has a second half right after it;
- `Text.hexValue?_hex`: hexadecimal digits are read back;
- `Json.readLiteral_write`: a literal is read back, and the rest of the text is left;
- `Literal.write_append_inj`: so a literal and what follows it are told by the text of both.
-/

namespace ShapeInference

/-- Whether no first half of a surrogate pair has a second half right after it. -/
def Text.isUnpaired : Text → Bool
  | [] => true
  | [_] => true
  | a :: b :: rest => !(a.isHighSurrogate && b.isLowSurrogate) && isUnpaired (b :: rest)

theorem Text.isUnpaired_tail {c : CodePoint} {t : Text} (h : Text.isUnpaired (c :: t) = true) :
    t.isUnpaired = true := by
  cases t with
  | nil => rfl
  | cons d rest => exact ((Bool.and_eq_true _ _).mp h).2

/-! ## Hexadecimal digits -/

theorem CodePoint.hexValue?_ofDigit : ∀ d < 16, (CodePoint.ofDigit d).hexValue? = some d := by
  decide

theorem Text.foldlM_hex (width : Nat) : ∀ n start : Nat,
    (Text.hex width n).foldlM (fun n c => c.hexValue?.map (n * 16 + ·)) start
      = some (start * 16 ^ width + n % 16 ^ width) := by
  induction width with
  | zero => simp [Text.hex, Nat.mod_one]
  | succ width ih =>
    intro n start
    have hdigit := CodePoint.hexValue?_ofDigit (n % 16) (Nat.mod_lt n (by decide))
    have hmod : n % 16 ^ (width + 1) = n % 16 + 16 * (n / 16 % 16 ^ width) := by
      rw [Nat.pow_succ', Nat.mod_mul]
    rw [Text.hex, List.foldlM_append, ih]
    simp only [Option.bind_eq_bind, Option.bind_some, List.foldlM_cons, List.foldlM_nil, hdigit,
      Option.map_some, Option.pure_def, hmod]
    congr 1
    ring

/-- **Hexadecimal digits are read back**, if there are enough of them for the number. -/
theorem Text.hexValue?_hex {width n : Nat} (h : n < 16 ^ width) :
    Text.hexValue? (Text.hex width n) = some n := by
  rw [Text.hexValue?, Text.foldlM_hex, Nat.zero_mul, Nat.zero_add, Nat.mod_eq_of_lt h]

theorem CodePoint.ofNat_val (c : CodePoint) : CodePoint.ofNat c.val = c :=
  dif_pos c.isLt

theorem CodePoint.val_ofNat {n : Nat} (h : n < 0x110000) : (CodePoint.ofNat n).val = n := by
  rw [CodePoint.ofNat, dif_pos h]

/-- A code point beyond `0xFFFF` is what the halves that it is written as stand for. -/
theorem CodePoint.joinSurrogates_halves {c : CodePoint} (hc : 0x10000 ≤ c.val) :
    CodePoint.joinSurrogates (.ofNat (0xD800 + (c.val - 0x10000) / 0x400))
      (.ofNat (0xDC00 + (c.val - 0x10000) % 0x400)) = c := by
  have hlt := c.isLt
  rw [CodePoint.joinSurrogates, val_ofNat (by omega), val_ofNat (by omega)]
  have hsum : 0x10000 + (0xD800 + (c.val - 0x10000) / 0x400 - 0xD800) * 0x400
      + (0xDC00 + (c.val - 0x10000) % 0x400 - 0xDC00) = c.val := by omega
  rw [hsum, CodePoint.ofNat_val]

/-- The two halves of surrogate pairs are apart. -/
theorem CodePoint.not_isLowSurrogate_of_isHighSurrogate {c : CodePoint}
    (h : c.isHighSurrogate = true) : ¬c.isLowSurrogate = true := by
  simp only [isHighSurrogate, isLowSurrogate, Bool.and_eq_true, decide_eq_true_eq] at h ⊢
  omega

namespace Json

open Literal

/-! ## Steps of the reader

What the reader does at each of the forms in which a code point is written. -/

section Steps

variable (opening : Text) (held : Option CodePoint) {next : Text}

theorem readLiteralAfter_plain {c : CodePoint} (hquote : c ≠ '"') (hslash : c ≠ '\\')
    (hcontrol : ¬c.val < 0x20) : readLiteralAfter opening held (c :: next) =
      (readLiteralAfter opening none next).map fun t => release held (release (some c) t) := by
  rw [readLiteralAfter.eq_def]
  simp only [if_neg hquote, if_neg hslash, if_neg hcontrol]

/-- A code point that has a letter is read back from it. -/
theorem unescape?_of_shortEscape? {c letter : CodePoint} (h : shortEscape? c = some letter) :
    letter ≠ 'u' ∧ unescape? letter = some c := by
  unfold shortEscape? at h
  split_ifs at h with h1 h2 h3 h4 h5 h6 h7
  all_goals obtain rfl := Option.some.inj h
  · subst h1
    decide
  · subst h2
    decide
  · subst h3
    decide
  · subst h4
    decide
  · subst h5
    decide
  · obtain rfl : c = .ofNat 0x0C := by rw [← h6, CodePoint.ofNat_val]
    decide
  · obtain rfl : c = .ofNat 0x08 := by rw [← h7, CodePoint.ofNat_val]
    decide

/-- An escape with a letter is read as the code point that the letter stands for. -/
theorem readLiteralAfter_letter {c letter : CodePoint} (hletter : letter ≠ 'u')
    (hc : unescape? letter = some c) : readLiteralAfter opening held ('\\' :: letter :: next) =
      (readLiteralAfter opening none next).map fun t => release held (release (some c) t) := by
  have hslash : ¬('\\' : CodePoint) = '"' := by decide
  rw [readLiteralAfter.eq_def]
  simp only [if_neg hslash, if_true, if_neg hletter, hc]

theorem readLiteralAfter_short {c letter : CodePoint} (h : shortEscape? c = some letter) :
    readLiteralAfter opening held ('\\' :: letter :: next) =
      (readLiteralAfter opening none next).map fun t => release held (release (some c) t) := by
  obtain ⟨hletter, hc⟩ := unescape?_of_shortEscape? h
  exact readLiteralAfter_letter opening held hletter hc

/-- What is read at a numeric escape of a number, depending on what is held back. -/
def readNumeric (n : Nat) (next : Text) : Except Flaw (Text × Text) :=
  match held with
  | some high =>
    if (CodePoint.ofNat n).isLowSurrogate then
      (readLiteralAfter opening none next).map
        (release (some (CodePoint.joinSurrogates high (.ofNat n))))
    else if (CodePoint.ofNat n).isHighSurrogate then
      (readLiteralAfter opening (some (.ofNat n)) next).map (release held)
    else
      (readLiteralAfter opening none next).map
        fun t => release held (release (some (.ofNat n)) t)
  | none =>
    if (CodePoint.ofNat n).isHighSurrogate then
      readLiteralAfter opening (some (.ofNat n)) next
    else (readLiteralAfter opening none next).map (release (some (.ofNat n)))

/-- A numeric escape is read as its number, unless the text ends right after it. -/
theorem readLiteralAfter_numeric {a b c d : CodePoint} {n : Nat}
    (hvalue : Text.hexValue? [a, b, c, d] = some n) (hnext : next ≠ []) :
    readLiteralAfter opening held ('\\' :: 'u' :: a :: b :: c :: d :: next) =
      readNumeric opening held n next := by
  obtain ⟨x, xs, rfl⟩ := List.exists_cons_of_ne_nil hnext
  have hslash : ¬('\\' : CodePoint) = '"' := by decide
  rw [readLiteralAfter.eq_def]
  cases held with
  | some high =>
    simp only [if_neg hslash, if_true, hvalue]
    rfl
  | none =>
    simp only [if_neg hslash, if_true, hvalue]
    rfl

theorem readLiteralAfter_unit {n : Nat} (hn : n < 0x10000) (hnext : next ≠ []) :
    readLiteralAfter opening held (escapeUnit n ++ next) = readNumeric opening held n next := by
  obtain ⟨a, b, c, d, hhex⟩ : ∃ a b c d, Text.hex 4 n = [a, b, c, d] := ⟨_, _, _, _, rfl⟩
  have hvalue : Text.hexValue? [a, b, c, d] = some n := by
    rw [← hhex]
    exact Text.hexValue?_hex hn
  rw [escapeUnit, hhex]
  exact readLiteralAfter_numeric opening held hvalue hnext

/-- A first half of a surrogate pair is held back. -/
theorem readNumeric_high {n : Nat} (hhigh : (CodePoint.ofNat n).isHighSurrogate = true) :
    readNumeric opening held n next =
      (readLiteralAfter opening (some (.ofNat n)) next).map (release held) := by
  have hlow := CodePoint.not_isLowSurrogate_of_isHighSurrogate hhigh
  unfold readNumeric
  cases held with
  | some high => simp only [if_neg hlow, if_pos hhigh]
  | none =>
    simp only [if_pos hhigh]
    cases readLiteralAfter opening (some (.ofNat n)) next <;> rfl

/-- A code point that completes no pair and begins none stands for itself. -/
theorem readNumeric_single {n : Nat} (hhigh : ¬(CodePoint.ofNat n).isHighSurrogate = true)
    (hlow : held.isSome = true → ¬(CodePoint.ofNat n).isLowSurrogate = true) :
    readNumeric opening held n next = (readLiteralAfter opening none next).map
      fun t => release held (release (some (.ofNat n)) t) := by
  unfold readNumeric
  cases held with
  | some high => simp only [if_neg (hlow rfl), if_neg hhigh]
  | none =>
    simp only [if_neg hhigh]
    rfl

/-- A second half of a surrogate pair completes the first half that was held back. -/
theorem readNumeric_low {n : Nat} (high : CodePoint)
    (hlow : (CodePoint.ofNat n).isLowSurrogate = true) :
    readNumeric opening (some high) n next = (readLiteralAfter opening none next).map
      (release (some (CodePoint.joinSurrogates high (.ofNat n)))) := by
  simp only [readNumeric, if_pos hlow]

end Steps

/-! ## Literals are read back -/

/-- **One code point is read back** in whatever form it is written. Only if it is the first half of
a surrogate pair can it matter what comes next, and then it may be held back. -/
theorem readLiteralAfter_escape (opening : Text) (ascii : Bool) {held : Option CodePoint}
    {c : CodePoint} {next : Text} (hnext : next ≠ [])
    (hheld : held.isSome = true → ¬c.isLowSurrogate = true) :
    readLiteralAfter opening held (escape ascii c ++ next) =
        (readLiteralAfter opening none next).map (fun t => release held (release (some c) t)) ∨
      c.isHighSurrogate = true ∧ readLiteralAfter opening held (escape ascii c ++ next) =
        (readLiteralAfter opening (some c) next).map (release held) := by
  unfold escape
  cases hshort : shortEscape? c with
  | some letter => exact .inl (readLiteralAfter_short opening held hshort)
  | none =>
    dsimp only
    split
    · unfold escapeNumber
      split
      next hunit =>
        rw [readLiteralAfter_unit opening held hunit hnext]
        by_cases hhigh : c.isHighSurrogate = true
        · refine .inr ⟨hhigh, ?_⟩
          have hstep := @readNumeric_high opening held next c.val
          rw [CodePoint.ofNat_val] at hstep
          exact hstep hhigh
        · have hstep := @readNumeric_single opening held next c.val
          rw [CodePoint.ofNat_val] at hstep
          exact .inl (hstep hhigh hheld)
      next hpair =>
        -- the first half is held back, the second half completes it
        have hc := c.isLt
        have hjoin := CodePoint.joinSurrogates_halves (Nat.not_lt.mp hpair)
        have hhigh : (CodePoint.ofNat (0xD800 + (c.val - 0x10000) / 0x400)).isHighSurrogate
            = true := by
          simp only [CodePoint.isHighSurrogate, Bool.and_eq_true, decide_eq_true_eq]
          rw [CodePoint.val_ofNat (by omega)]
          omega
        have hlow : (CodePoint.ofNat (0xDC00 + (c.val - 0x10000) % 0x400)).isLowSurrogate
            = true := by
          simp only [CodePoint.isLowSurrogate, Bool.and_eq_true, decide_eq_true_eq]
          rw [CodePoint.val_ofNat (by omega)]
          omega
        left
        rw [List.append_assoc, readLiteralAfter_unit opening held (by omega) (by simp [escapeUnit]),
          readNumeric_high opening held hhigh, readLiteralAfter_unit opening _ (by omega) hnext,
          readNumeric_low opening _ hlow, hjoin]
        cases readLiteralAfter opening none next <;> rfl
    next hplain =>
      have hquote : c ≠ '"' := by
        rintro rfl
        cases hshort
      have hslash : c ≠ '\\' := by
        rintro rfl
        cases hshort
      have hcontrol : ¬c.val < 0x20 := by
        intro hlt
        simp [hlt] at hplain
      exact .inl (readLiteralAfter_plain opening held hquote hslash hcontrol)

/-- The rest of a literal is read back after what was held back. -/
theorem readLiteralAfter_write (opening rest : Text) (ascii : Bool) : ∀ (t : Text)
    (held : Option CodePoint), (∀ c ∈ held, c.isHighSurrogate = true) →
      Text.isUnpaired (held.toList ++ t) = true →
        readLiteralAfter opening held (t.flatMap (escape ascii) ++ (('"' : CodePoint) :: rest))
          = .ok (held.toList ++ t, rest)
  | [], held, _, _ => by
    rw [List.flatMap_nil, List.nil_append, readLiteralAfter.eq_def, List.append_nil]
    rfl
  | c :: t, held, hhigh, hunpaired => by
    have hheld : held.isSome = true → ¬c.isLowSurrogate = true := by
      intro hsome hlow
      obtain ⟨high, rfl⟩ := Option.isSome_iff_exists.mp hsome
      have hpair := ((Bool.and_eq_true _ _).mp hunpaired).1
      rw [hhigh high rfl, hlow] at hpair
      cases hpair
    have hct : Text.isUnpaired (c :: t) = true := by
      cases held with
      | none => exact hunpaired
      | some high => exact Text.isUnpaired_tail hunpaired
    have hnext : t.flatMap (escape ascii) ++ (('"' : CodePoint) :: rest) ≠ [] := by simp
    rw [List.flatMap_cons, List.append_assoc]
    rcases readLiteralAfter_escape opening ascii hnext hheld
      with hstep | ⟨hc, hstep⟩
    · rw [hstep, readLiteralAfter_write opening rest ascii t none (by simp)
        (Text.isUnpaired_tail hct)]
      rfl
    · rw [hstep, readLiteralAfter_write opening rest ascii t (some c) (by simpa using hc) hct]
      rfl

/-- **A literal is read back** as the text that it was written for. -/
theorem readLiteral_write {t : Text} (h : t.isUnpaired = true) (ascii : Bool) (rest : Text) :
    readLiteral (t.flatMap (escape ascii) ++ (('"' : CodePoint) :: rest)) = .ok (t, rest) :=
  readLiteralAfter_write _ rest ascii t none (by simp) h

end Json

/-- **A literal and what follows it** are told by the text of both. -/
theorem Literal.write_append_inj {t t' rest rest' : Text} {ascii ascii' : Bool}
    (ht : t.isUnpaired = true) (ht' : t'.isUnpaired = true)
    (h : Literal.write ascii t ++ rest = Literal.write ascii' t' ++ rest') :
    t = t' ∧ rest = rest' := by
  have hinside : t.flatMap (escape ascii) ++ (('"' : CodePoint) :: rest)
      = t'.flatMap (escape ascii') ++ (('"' : CodePoint) :: rest') := by
    simpa [Literal.write, Text.ofString] using h
  have hread := Json.readLiteral_write ht ascii rest
  rw [hinside, Json.readLiteral_write ht' ascii' rest'] at hread
  obtain ⟨rfl, rfl⟩ := Prod.mk.inj (Except.ok.inj hread)
  exact ⟨rfl, rfl⟩

end ShapeInference
