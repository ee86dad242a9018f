import ShapeInference.Proofs.Except
import ShapeInference.Proofs.Literal
import ShapeInference.Text.Utf8

/-!
# Reading back what was encoded

A text without surrogates is encoded, and its bytes are read back as the same text. A code point
takes up to four bytes; whatever it takes, the machine that reads them is between two sequences
before the first one and after the last one.

- `Text.isEncodable`: whether a text has an encoding;
- `Utf8.Decodes`: bytes that are read as a text wherever they begin;
- `Utf8.Completes`: bytes that do so after they have ended an open sequence;
- `Utf8.Decodes.encodePoint`: one more code point before them;
- `Utf8.decode_encode`: an encoded text is read back.
-/

namespace ShapeInference

/-- Surrogates stand in one range. -/
theorem CodePoint.isSurrogate_eq_false_iff {c : CodePoint} :
    c.isSurrogate = false ↔ c.val < 0xD800 ∨ 0xDFFF < c.val := by
  rw [isSurrogate, Bool.and_eq_false_iff, decide_eq_false_iff_not, decide_eq_false_iff_not,
    Nat.not_le, Nat.not_le]

/-- Whether a text has an encoding: none of its code points is half of a surrogate pair. -/
def Text.isEncodable (t : Text) : Bool :=
  t.all (!·.isSurrogate)

namespace Utf8

/-- Bytes that are read as a text, whatever came before them. -/
def Decodes (bytes : List UInt8) (t : Text) : Prop :=
  ∀ position, decodeFrom position none bytes = .ok (t, none)

/-- Bytes that end an open sequence and go on with a text. -/
def Completes (p : Pending) (bytes : List UInt8) (t : Text) : Prop :=
  ∀ position, decodeFrom position (some p) bytes = .ok (t, none)

variable {bytes : List UInt8} {t : Text} {p : Pending} {b : UInt8}

theorem toNat_toUInt8 {n : Nat} (h : n < 256) : n.toUInt8.toNat = n :=
  Nat.mod_eq_of_lt h

/-! ## One byte -/

/-- A byte of ASCII is a sequence of its own. -/
theorem Decodes.ascii (hb : b.toNat < 0x80) (h : Decodes bytes t) :
    Decodes (b :: bytes) (CodePoint.ofNat b.toNat :: t) := by
  intro position
  have hascii : b < 0x80 := UInt8.lt_iff_toNat_lt.mpr hb
  rw [decodeFrom, if_pos hascii, h]
  rfl

/-- Another byte may begin a sequence. -/
theorem Decodes.lead (hb : 0x80 ≤ b.toNat) (hp : Pending.ofLead? b = some p)
    (h : Completes p bytes t) : Decodes (b :: bytes) t := by
  intro position
  have hascii : ¬b < 0x80 := fun hlt => Nat.not_le.mpr (UInt8.lt_iff_toNat_lt.mp hlt) hb
  rw [decodeFrom, if_neg hascii, hp]
  exact h _

/-! ## The bytes after the first one -/

/-- Whether a byte may come next in an open sequence. -/
def Pending.Allows (p : Pending) (b : UInt8) : Prop :=
  p.low.toNat ≤ b.toNat ∧ b.toNat ≤ p.high.toNat

theorem Pending.Allows.test (h : p.Allows b) : (p.low ≤ b && b ≤ p.high) = true := by
  rw [Bool.and_eq_true, decide_eq_true_iff, decide_eq_true_iff]
  exact ⟨UInt8.le_iff_toNat_le.mpr h.1, UInt8.le_iff_toNat_le.mpr h.2⟩

theorem toNat_tail (n : Nat) : (0x80 + n % 0x40).toUInt8.toNat = 0x80 + n % 0x40 :=
  toNat_toUInt8 (by omega)

/-- Six more bits of an open sequence. -/
theorem extend_tail (p : Pending) (n : Nat) : p.extend (0x80 + n % 0x40).toUInt8 =
    ⟨p.first, p.seen + 1, p.value * 0x40 + n % 0x40, p.missing - 1, 0x80, 0xBF⟩ := by
  unfold Pending.extend
  rw [toNat_tail, Nat.add_sub_cancel_left]

/-- A sequence goes on with six bits while more bytes than one are missing. -/
theorem Completes.next (missing : Nat) {n : Nat} (hmissing : p.missing = missing + 2)
    (hb : p.Allows (0x80 + n % 0x40).toUInt8)
    (h : Completes ⟨p.first, p.seen + 1, p.value * 0x40 + n % 0x40, missing + 1, 0x80, 0xBF⟩
      bytes t) : Completes p ((0x80 + n % 0x40).toUInt8 :: bytes) t := by
  intro position
  have hopen : ¬p.missing = 1 := by omega
  rw [decodeFrom, if_pos hb.test, if_neg hopen, extend_tail, hmissing]
  exact h _

/-- The last six bits of a sequence complete a code point. -/
theorem Completes.last {n : Nat} {c : CodePoint} (hmissing : p.missing = 1)
    (hb : p.Allows (0x80 + n % 0x40).toUInt8) (hc : p.value * 0x40 + n % 0x40 = c.val)
    (h : Decodes bytes t) : Completes p ((0x80 + n % 0x40).toUInt8 :: bytes) (c :: t) := by
  intro position
  rw [decodeFrom, if_pos hb.test, if_pos hmissing, h, extend_tail]
  dsimp only
  rw [hc, CodePoint.ofNat_val]
  rfl

/-- After its second byte a sequence may go on with any six bits. -/
theorem allows_tail (hlow : p.low = 0x80) (hhigh : p.high = 0xBF) (n : Nat) :
    p.Allows (0x80 + n % 0x40).toUInt8 := by
  rw [Pending.Allows, hlow, hhigh, toNat_tail]
  show 0x80 ≤ _ ∧ _ ≤ 0xBF
  omega

/-- The second byte is bounded more closely after some first ones. -/
theorem allows_second {lead least greatest low high : UInt8} {seen value missing n : Nat}
    (hlow : lead = least → low.toNat ≤ 0x80 + n % 0x40)
    (hhigh : lead = greatest → 0x80 + n % 0x40 ≤ high.toNat) :
    Pending.Allows ⟨lead, seen, value, missing, if lead = least then low else 0x80,
      if lead = greatest then high else 0xBF⟩ (0x80 + n % 0x40).toUInt8 := by
  rw [Pending.Allows, toNat_tail]
  constructor
  · dsimp only
    split
    next hlead => exact hlow hlead
    next => exact Nat.le_add_right _ _
  · dsimp only
    split
    next hlead => exact hhigh hlead
    next =>
      show _ ≤ 0xBF
      omega

/-! ## One code point -/

theorem not_lt_of_toNat_le (a : UInt8) (h : a.toNat ≤ b.toNat) : ¬b < a :=
  fun hlt => Nat.not_le.mpr (UInt8.lt_iff_toNat_lt.mp hlt) h

theorem ofLead?_two (hlow : 0xC2 ≤ b.toNat) (hhigh : b.toNat < 0xE0) :
    Pending.ofLead? b = some ⟨b, 1, b.toNat - 0xC0, 1, 0x80, 0xBF⟩ := by
  unfold Pending.ofLead?
  rw [if_neg (not_lt_of_toNat_le 0xC2 hlow), if_pos (UInt8.lt_iff_toNat_lt.mpr hhigh)]

theorem ofLead?_three (hlow : 0xE0 ≤ b.toNat) (hhigh : b.toNat < 0xF0) :
    Pending.ofLead? b = some ⟨b, 1, b.toNat - 0xE0, 2, if b = 0xE0 then 0xA0 else 0x80,
      if b = 0xED then 0x9F else 0xBF⟩ := by
  unfold Pending.ofLead?
  rw [if_neg (not_lt_of_toNat_le 0xC2 (Nat.le_trans (by decide) hlow)),
    if_neg (not_lt_of_toNat_le 0xE0 hlow), if_pos (UInt8.lt_iff_toNat_lt.mpr hhigh)]

theorem ofLead?_four (hlow : 0xF0 ≤ b.toNat) (hhigh : b.toNat < 0xF5) :
    Pending.ofLead? b = some ⟨b, 1, b.toNat - 0xF0, 3, if b = 0xF0 then 0x90 else 0x80,
      if b = 0xF4 then 0x8F else 0xBF⟩ := by
  unfold Pending.ofLead?
  rw [if_neg (not_lt_of_toNat_le 0xC2 (Nat.le_trans (by decide) hlow)),
    if_neg (not_lt_of_toNat_le 0xE0 (Nat.le_trans (by decide) hlow)),
    if_neg (not_lt_of_toNat_le 0xF0 hlow), if_pos (UInt8.lt_iff_toNat_lt.mpr hhigh)]

/-- **One more code point** before bytes that are read as a text. -/
theorem Decodes.encodePoint {c : CodePoint} (hc : c.isSurrogate = false) (h : Decodes bytes t) :
    Decodes (encodePoint c ++ bytes) (c :: t) := by
  have hlt : c.val < 0x110000 := c.isLt
  have hplain := CodePoint.isSurrogate_eq_false_iff.mp hc
  unfold Utf8.encodePoint
  dsimp only
  -- one case for every number of bytes
  split
  next hone =>
    have hb : c.val.toUInt8.toNat = c.val := toNat_toUInt8 (by omega)
    have hascii := Decodes.ascii (b := c.val.toUInt8) (by omega) h
    rwa [hb, CodePoint.ofNat_val] at hascii
  next hone =>
    split
    next htwo =>
      have hb : (0xC0 + c.val / 0x40).toUInt8.toNat = 0xC0 + c.val / 0x40 :=
        toNat_toUInt8 (by omega)
      refine .lead (by omega) (ofLead?_two (by omega) (by omega)) ?_
      exact .last rfl (allows_tail rfl rfl _) (by dsimp only; omega) h
    next htwo =>
      split
      next hthree =>
        have hb : (0xE0 + c.val / 0x1000).toUInt8.toNat = 0xE0 + c.val / 0x1000 :=
          toNat_toUInt8 (by omega)
        refine .lead (by omega) (ofLead?_three (by omega) (by omega)) ?_
        refine .next 0 rfl (allows_second ?_ ?_) ?_
        · intro hfirst
          rw [hfirst] at hb
          have hzero : 0xE0 = 0xE0 + c.val / 0x1000 := hb
          show 0xA0 ≤ _
          omega
        · intro hfirst
          rw [hfirst] at hb
          -- greater second bytes are for surrogates
          have hhigh : 0xED = 0xE0 + c.val / 0x1000 := hb
          show _ ≤ 0x9F
          omega
        · exact .last rfl (allows_tail rfl rfl _) (by dsimp only; omega) h
      next hthree =>
        have hb : (0xF0 + c.val / 0x40000).toUInt8.toNat = 0xF0 + c.val / 0x40000 :=
          toNat_toUInt8 (by omega)
        refine .lead (by omega) (ofLead?_four (by omega) (by omega)) ?_
        refine .next 1 rfl (allows_second ?_ ?_) ?_
        · intro hfirst
          rw [hfirst] at hb
          have hzero : 0xF0 = 0xF0 + c.val / 0x40000 := hb
          show 0x90 ≤ _
          omega
        · intro hfirst
          rw [hfirst] at hb
          have hhigh : 0xF4 = 0xF0 + c.val / 0x40000 := hb
          show _ ≤ 0x8F
          omega
        · refine .next 0 rfl (allows_tail rfl rfl _) ?_
          exact .last rfl (allows_tail rfl rfl _) (by dsimp only; omega) h

/-- The bytes of a text that has an encoding are read as that text. -/
theorem decodes_encode (h : t.isEncodable = true) : Decodes (encode t) t := by
  induction t with
  | nil => exact fun _ => rfl
  | cons c t ih =>
    obtain ⟨hc, ht⟩ := Bool.and_eq_true _ _ ▸ h
    have hplain : c.isSurrogate = false := by simpa using hc
    exact (ih ht).encodePoint hplain

/-- **An encoded text is read back.** -/
theorem decode_encode (h : t.isEncodable = true) : decode (encode t) = .ok t := by
  unfold decode
  rw [decodes_encode h 0]
  rfl

/-! ## Only what was encoded is read -/

/-- A byte that comes next in a sequence, whatever came before it. -/
def IsTail (b : UInt8) : Prop :=
  0x80 ≤ b.toNat ∧ b.toNat ≤ 0xBF

theorem toUInt8_eq {n : Nat} (h : n = b.toNat) : n.toUInt8 = b :=
  h ▸ UInt8.ofNat_toNat

/-- A byte of ASCII is that of a code point. -/
theorem encodePoint_one (hb : b.toNat < 0x80) : encodePoint (.ofNat b.toNat) = [b] ∧
    (CodePoint.ofNat b.toNat).isSurrogate = false := by
  have hval : (CodePoint.ofNat b.toNat).val = b.toNat := CodePoint.val_ofNat (by omega)
  rw [CodePoint.isSurrogate_eq_false_iff, hval]
  refine ⟨?_, by omega⟩
  unfold encodePoint
  rw [hval]
  dsimp only
  rw [if_pos hb, toUInt8_eq rfl]

/-- Two bytes are those of a code point. -/
theorem encodePoint_two {b b₁ : UInt8} (hb : 0xC2 ≤ b.toNat) (hb' : b.toNat < 0xE0)
    (h₁ : IsTail b₁) {n : Nat} (hn : n = (b.toNat - 0xC0) * 0x40 + (b₁.toNat - 0x80)) :
    encodePoint (.ofNat n) = [b, b₁] ∧ (CodePoint.ofNat n).isSurrogate = false := by
  obtain ⟨h₁, h₁'⟩ := h₁
  have hval : (CodePoint.ofNat n).val = n := CodePoint.val_ofNat (by omega)
  rw [CodePoint.isSurrogate_eq_false_iff, hval]
  refine ⟨?_, by omega⟩
  unfold encodePoint
  rw [hval]
  dsimp only
  rw [if_neg (by omega), if_pos (by omega), toUInt8_eq (b := b) (by omega),
    toUInt8_eq (b := b₁) (by omega)]

/-- Three bytes are those of a code point, unless they write a smaller one or a surrogate. -/
theorem encodePoint_three {b b₁ b₂ : UInt8} (hb : 0xE0 ≤ b.toNat) (hb' : b.toNat < 0xF0)
    (h₁ : IsTail b₁) (hleast : b.toNat = 0xE0 → 0xA0 ≤ b₁.toNat)
    (hgreatest : b.toNat = 0xED → b₁.toNat ≤ 0x9F) (h₂ : IsTail b₂) {n : Nat}
    (hn : n = ((b.toNat - 0xE0) * 0x40 + (b₁.toNat - 0x80)) * 0x40 + (b₂.toNat - 0x80)) :
    encodePoint (.ofNat n) = [b, b₁, b₂] ∧ (CodePoint.ofNat n).isSurrogate = false := by
  obtain ⟨h₁, h₁'⟩ := h₁
  obtain ⟨h₂, h₂'⟩ := h₂
  have hval : (CodePoint.ofNat n).val = n := CodePoint.val_ofNat (by omega)
  rw [CodePoint.isSurrogate_eq_false_iff, hval]
  refine ⟨?_, by omega⟩
  unfold encodePoint
  rw [hval]
  dsimp only
  rw [if_neg (by omega), if_neg (by omega), if_pos (by omega), toUInt8_eq (b := b) (by omega),
    toUInt8_eq (b := b₁) (by omega), toUInt8_eq (b := b₂) (by omega)]

/-- Four bytes are those of a code point, unless they write a smaller one or none at all. -/
theorem encodePoint_four {b b₁ b₂ b₃ : UInt8} (hb : 0xF0 ≤ b.toNat) (hb' : b.toNat < 0xF5)
    (h₁ : IsTail b₁) (hleast : b.toNat = 0xF0 → 0x90 ≤ b₁.toNat)
    (hgreatest : b.toNat = 0xF4 → b₁.toNat ≤ 0x8F) (h₂ : IsTail b₂) (h₃ : IsTail b₃) {n : Nat}
    (hn : n = (((b.toNat - 0xF0) * 0x40 + (b₁.toNat - 0x80)) * 0x40 + (b₂.toNat - 0x80)) * 0x40
      + (b₃.toNat - 0x80)) :
    encodePoint (.ofNat n) = [b, b₁, b₂, b₃] ∧ (CodePoint.ofNat n).isSurrogate = false := by
  obtain ⟨h₁, h₁'⟩ := h₁
  obtain ⟨h₂, h₂'⟩ := h₂
  obtain ⟨h₃, h₃'⟩ := h₃
  have hval : (CodePoint.ofNat n).val = n := CodePoint.val_ofNat (by omega)
  rw [CodePoint.isSurrogate_eq_false_iff, hval]
  refine ⟨?_, by omega⟩
  unfold encodePoint
  rw [hval]
  dsimp only
  rw [if_neg (by omega), if_neg (by omega), if_neg (by omega), toUInt8_eq (b := b) (by omega),
    toUInt8_eq (b := b₁) (by omega), toUInt8_eq (b := b₂) (by omega),
    toUInt8_eq (b := b₃) (by omega)]

/-- An open sequence goes on with a byte that it allows. -/
theorem exists_of_decodeFrom {position : Nat}
    (h : decodeFrom position (some p) bytes = .ok (t, none)) :
    ∃ b rest, bytes = b :: rest ∧ p.Allows b ∧
      if p.missing = 1 then ∃ t', t = CodePoint.ofNat (p.extend b).value :: t' ∧
        decodeFrom (position + 1) none rest = .ok (t', none)
      else decodeFrom (position + 1) (some (p.extend b)) rest = .ok (t, none) := by
  cases bytes with
  | nil => cases h
  | cons b rest =>
    rw [decodeFrom] at h
    split at h
    next hallows =>
      rw [Bool.and_eq_true, decide_eq_true_iff, decide_eq_true_iff, UInt8.le_iff_toNat_le,
        UInt8.le_iff_toNat_le] at hallows
      refine ⟨b, rest, rfl, hallows, ?_⟩
      split at h
      next hlast =>
        rw [if_pos hlast]
        obtain ⟨⟨t', pending⟩, hrest, heq⟩ := Except.bind_ok_iff.mp h
        obtain ⟨rfl, rfl⟩ := Prod.mk.inj (Except.ok.inj heq)
        exact ⟨t', rfl, hrest⟩
      next hopen => rwa [if_neg hopen]
    next => cases h

/-- The second byte is bounded more closely after some first ones. -/
theorem tail_of_allows {lead least greatest low high : UInt8} {seen value missing : Nat}
    (h : Pending.Allows ⟨lead, seen, value, missing, if lead = least then low else 0x80,
      if lead = greatest then high else 0xBF⟩ b)
    (hlow : 0x80 ≤ low.toNat) (hhigh : high.toNat ≤ 0xBF) :
    IsTail b ∧ (lead.toNat = least.toNat → low.toNat ≤ b.toNat) ∧
      (lead.toNat = greatest.toNat → b.toNat ≤ high.toNat) := by
  obtain ⟨hlower, hupper⟩ := h
  dsimp only at hlower hupper
  refine ⟨⟨?_, ?_⟩, fun hlead => ?_, fun hlead => ?_⟩
  · split at hlower
    · exact hlow.trans hlower
    · exact hlower
  · split at hupper
    · exact hupper.trans hhigh
    · exact hupper
  · rwa [if_pos (UInt8.toNat_inj.mp hlead)] at hlower
  · rwa [if_pos (UInt8.toNat_inj.mp hlead)] at hupper

/-- How a sequence of more bytes than one may begin. -/
theorem lead_cases (h : Pending.ofLead? b = some p) :
    (0xC2 ≤ b.toNat ∧ b.toNat < 0xE0 ∧ p = ⟨b, 1, b.toNat - 0xC0, 1, 0x80, 0xBF⟩) ∨
    (0xE0 ≤ b.toNat ∧ b.toNat < 0xF0 ∧ p = ⟨b, 1, b.toNat - 0xE0, 2,
      if b = 0xE0 then 0xA0 else 0x80, if b = 0xED then 0x9F else 0xBF⟩) ∨
    0xF0 ≤ b.toNat ∧ b.toNat < 0xF5 ∧ p = ⟨b, 1, b.toNat - 0xF0, 3,
      if b = 0xF0 then 0x90 else 0x80, if b = 0xF4 then 0x8F else 0xBF⟩ := by
  have hle : ∀ {a : UInt8}, ¬b < a → a.toNat ≤ b.toNat :=
    fun hlt => Nat.not_lt.mp (mt UInt8.lt_iff_toNat_lt.mpr hlt)
  unfold Pending.ofLead? at h
  by_cases h₁ : b < 0xC2
  · rw [if_pos h₁] at h
    cases h
  rw [if_neg h₁] at h
  by_cases h₂ : b < 0xE0
  · rw [if_pos h₂] at h
    exact .inl ⟨hle h₁, UInt8.lt_iff_toNat_lt.mp h₂, (Option.some.inj h).symm⟩
  rw [if_neg h₂] at h
  by_cases h₃ : b < 0xF0
  · rw [if_pos h₃] at h
    exact .inr (.inl ⟨hle h₂, UInt8.lt_iff_toNat_lt.mp h₃, (Option.some.inj h).symm⟩)
  rw [if_neg h₃] at h
  by_cases h₄ : b < 0xF5
  · rw [if_pos h₄] at h
    exact .inr (.inr ⟨hle h₃, UInt8.lt_iff_toNat_lt.mp h₄, (Option.some.inj h).symm⟩)
  · rw [if_neg h₄] at h
    cases h

/-- Bytes that are read as a text begin with those of its first code point. -/
theorem exists_point_of_decodeFrom {position : Nat}
    (h : decodeFrom position none (b :: bytes) = .ok (t, none)) :
    ∃ c t' rest position', t = c :: t' ∧ b :: bytes = encodePoint c ++ rest ∧
      c.isSurrogate = false ∧ decodeFrom position' none rest = .ok (t', none) := by
  rw [decodeFrom] at h
  split at h
  next hascii =>
    have hsmall : b.toNat < 0x80 := UInt8.lt_iff_toNat_lt.mp hascii
    obtain ⟨⟨t', pending⟩, hrest, heq⟩ := Except.bind_ok_iff.mp h
    obtain ⟨rfl, rfl⟩ := Prod.mk.inj (Except.ok.inj heq)
    obtain ⟨hpoint, hc⟩ := encodePoint_one hsmall
    exact ⟨_, t', bytes, _, rfl, (congrArg (· ++ bytes) hpoint).symm, hc, hrest⟩
  next =>
    split at h
    next => cases h
    next p hp =>
      -- the first byte says how many follow it
      obtain ⟨b₁, rest₁, rfl, hb₁, h⟩ := exists_of_decodeFrom h
      rcases lead_cases hp with ⟨hlow, hhigh, rfl⟩ | ⟨hlow, hhigh, rfl⟩ | ⟨hlow, hhigh, rfl⟩
      · obtain ⟨t', rfl, hrest⟩ := h
        obtain ⟨hpoint, hc⟩ := encodePoint_two hlow hhigh hb₁ rfl
        exact ⟨_, t', rest₁, _, rfl, (congrArg (· ++ rest₁) hpoint).symm, hc, hrest⟩
      · obtain ⟨htail₁, hleast, hgreatest⟩ := tail_of_allows hb₁ (by decide) (by decide)
        obtain ⟨b₂, rest₂, rfl, hb₂, h⟩ := exists_of_decodeFrom h
        obtain ⟨t', rfl, hrest⟩ := h
        obtain ⟨hpoint, hc⟩ := encodePoint_three hlow hhigh htail₁ hleast hgreatest hb₂ rfl
        exact ⟨_, t', rest₂, _, rfl, (congrArg (· ++ rest₂) hpoint).symm, hc, hrest⟩
      · obtain ⟨htail₁, hleast, hgreatest⟩ := tail_of_allows hb₁ (by decide) (by decide)
        obtain ⟨b₂, rest₂, rfl, hb₂, h⟩ := exists_of_decodeFrom h
        obtain ⟨b₃, rest₃, rfl, hb₃, h⟩ := exists_of_decodeFrom h
        obtain ⟨t', rfl, hrest⟩ := h
        obtain ⟨hpoint, hc⟩ := encodePoint_four hlow hhigh htail₁ hleast hgreatest hb₂ hb₃ rfl
        exact ⟨_, t', rest₃, _, rfl, (congrArg (· ++ rest₃) hpoint).symm, hc, hrest⟩

theorem encodePoint_ne_nil (c : CodePoint) : encodePoint c ≠ [] := by
  unfold encodePoint
  dsimp only
  split
  · exact List.cons_ne_nil _ _
  split
  · exact List.cons_ne_nil _ _
  split
  · exact List.cons_ne_nil _ _
  · exact List.cons_ne_nil _ _

/-- **Only what was encoded is read.** -/
theorem encode_of_decodeFrom {position : Nat}
    (h : decodeFrom position none bytes = .ok (t, none)) :
    t.isEncodable = true ∧ encode t = bytes := by
  -- on the number of bytes, since a code point may take several of them
  induction hlength : bytes.length using Nat.strong_induction_on generalizing bytes t position with
  | h length ih =>
    cases bytes with
    | nil =>
      obtain ⟨rfl, -⟩ := Prod.mk.inj (Except.ok.inj h)
      exact ⟨rfl, rfl⟩
    | cons b bytes =>
      obtain ⟨c, t', rest, position', rfl, hbytes, hc, hrest⟩ := exists_point_of_decodeFrom h
      have hshorter : rest.length < length := by
        have hpos := List.length_pos_iff.mpr (encodePoint_ne_nil c)
        rw [hbytes, List.length_append] at hlength
        omega
      obtain ⟨hencodable, hencode⟩ := ih rest.length hshorter hrest rfl
      refine ⟨?_, ?_⟩
      · rw [Text.isEncodable, List.all_cons, hc]
        exact hencodable
      · rw [hbytes, ← hencode, encode, List.flatMap_cons]
        rfl

/-- **The bytes that are read as a text** are those that encode it. -/
theorem decode_ok_iff : decode bytes = .ok t ↔ t.isEncodable = true ∧ encode t = bytes := by
  constructor
  · intro h
    obtain ⟨⟨t', pending⟩, hread, hclosed⟩ := Except.bind_ok_iff.mp h
    cases pending with
    | some p => cases hclosed
    | none =>
      obtain rfl : t' = t := Except.ok.inj hclosed
      exact encode_of_decodeFrom hread
  · rintro ⟨ht, rfl⟩
    exact decode_encode ht

end Utf8

end ShapeInference
