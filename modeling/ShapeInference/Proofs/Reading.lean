import Mathlib.Data.List.Infix
import Mathlib.Data.List.TakeWhile
import ShapeInference.Inference.Document
import ShapeInference.Proofs.Outcome
import ShapeInference.Proofs.Telling

/-!
# What reading a document ends with

A document is read in one pass, each reader handing what is left of the text to the next one. So
whatever is read, and whatever is wrong, comes from the document itself: the value is one of those
that documents can write, and the only flaw beside the form is an integer with too many digits,
which stand in the document one after the other. Classification never fails for such a value.

- `Value.isPlain`: the values that documents can write;
- `Json.Reads`: a reader reads a value with a property and hands on a rest of its text, or names a
  flaw of the text;
- `Json.Reads.bind`: one reader after the other;
- `Json.IsKept`: a property that goes from parts to a whole, such as to be plain;
- `Json.reads_value`: what the reader of values does, with those of elements and members;
- `Value.isCovered_of_isPlain`: classification returns for the values that documents can write;
- `Document.inference_fails_by_input_or_long_integer`: the ways in which inference can end.
-/

namespace ShapeInference

namespace Value

mutual

/-- Whether a document can write a value. -/
def isPlain : Value → Bool
  | null => true
  | bool _ => true
  | int _ => true
  | float _ => true
  | text _ => true
  | list items => arePlain items
  | dictionary entries => areEntriesPlain entries
  | _ => false

/-- Whether this holds of all elements. -/
def arePlain : List Value → Bool
  | [] => true
  | v :: rest => isPlain v && arePlain rest

/-- Whether the keys of entries are texts, and this holds of all values. -/
def areEntriesPlain : List (Value × Value) → Bool
  | [] => true
  | (text _, v) :: rest => isPlain v && areEntriesPlain rest
  | _ :: _ => false

end

theorem arePlain_iff : ∀ {items : List Value},
    arePlain items = true ↔ ∀ v ∈ items, v.isPlain = true
  | [] => by simp [arePlain]
  | v :: rest => by rw [arePlain, Bool.and_eq_true, arePlain_iff, List.forall_mem_cons]

theorem areEntriesPlain_iff : ∀ {entries : List (Value × Value)},
    areEntriesPlain entries = true ↔
      ∀ key v, (key, v) ∈ entries → (∃ t, key = text t) ∧ v.isPlain = true
  | [] => by simp [areEntriesPlain]
  | (key, v) :: rest => by
    rw [Entries.forall_mem_cons, ← areEntriesPlain_iff]
    cases key <;> simp [areEntriesPlain]

end Value

namespace Json

variable {α β : Type} {P : α → Prop} {Q : β → Prop} {t t' : Text}

/-! ## Readers -/

/-- Whether a flaw is one of a text: an integer that has too many digits stands in it. -/
def Flaw.IsOf (t : Text) : Flaw → Prop
  | .longInteger n => ∃ digits, digits <:+: t ∧ digits.all CodePoint.isDigit = true ∧
      digits.length = n ∧ Numeral.maxDigits < n
  | _ => True

/-- What a reader of a text ends with: something with a property and a rest of the text, or a flaw
of the text. -/
def Reads (P : α → Prop) (t : Text) : Except Flaw (α × Text) → Prop
  | .ok (a, rest) => P a ∧ rest <:+ t
  | .error flaw => flaw.IsOf t

theorem Flaw.IsOf.of_suffix {flaw : Flaw} (ht : t' <:+ t) (h : flaw.IsOf t') : flaw.IsOf t := by
  cases flaw with
  | longInteger n =>
    obtain ⟨digits, hdigits, hrest⟩ := h
    exact ⟨digits, hdigits.trans ht.isInfix, hrest⟩
  | _ => trivial

namespace Reads

variable {r : Except Flaw (α × Text)}

/-- What reads a rest of a text reads that text. -/
theorem of_suffix (ht : t' <:+ t) (h : Reads P t' r) : Reads P t r := by
  rcases r with flaw | ⟨a, rest⟩
  · exact Flaw.IsOf.of_suffix ht h
  · exact ⟨h.1, h.2.trans ht⟩

/-- What reads a text also reads it with something before it. -/
theorem after (before : Text) (h : Reads P t r) : Reads P (before ++ t) r :=
  h.of_suffix (List.suffix_append before t)

theorem map {f : α × Text → β × Text} (h : Reads P t r)
    (hf : ∀ a rest, P a → Q (f (a, rest)).1 ∧ (f (a, rest)).2 = rest) :
    Reads Q t (r.map f) := by
  rcases r with flaw | ⟨a, rest⟩
  · exact h
  · obtain ⟨hvalue, hrest⟩ := hf a rest h.1
    exact ⟨hvalue, by rw [hrest]; exact h.2⟩

/-- **One reader after the other**: the second one reads what the first one leaves. -/
theorem bind {f : α × Text → Except Flaw (β × Text)} (h : Reads P t r)
    (hf : ∀ a rest, P a → Reads Q rest (f (a, rest))) : Reads Q t (r >>= f) := by
  rcases r with flaw | ⟨a, rest⟩
  · exact h
  · exact (hf a rest h.1).of_suffix h.2

/-- A reader that begins after a code point that has to come first. -/
theorem expect_bind {c : CodePoint} {reason : Reason} {f : Text → Except Flaw (β × Text)}
    (hf : ∀ rest, Reads Q (c :: rest) (f rest)) : Reads Q t (expect c reason t >>= f) := by
  cases t with
  | nil => exact trivial
  | cons d rest =>
    show Reads Q (d :: rest) ((if d = c then .ok rest else .error _) >>= f)
    by_cases hd : d = c
    · rw [if_pos hd, hd]
      exact hf rest
    · rw [if_neg hd]
      exact trivial

end Reads

theorem skipSpaces_suffix (t : Text) : skipSpaces t <:+ t :=
  List.dropWhile_suffix isSpace

/-! ## Literals -/

theorem reads_literalAfter (opening : Text) (held : Option CodePoint) (t : Text) :
    Reads (fun _ => True) t (readLiteralAfter opening held t) := by
  -- every branch either ends with a flaw of form or goes on with what follows an escape
  fun_induction readLiteralAfter opening held t with
  | case2 held rest => exact ⟨trivial, List.suffix_cons _ rest⟩
  | case4 a b c d n head tail _ _ _ _ _ ih =>
    exact (ih.after ['\\', 'u', a, b, c, d]).map fun _ _ _ => ⟨trivial, rfl⟩
  | case5 a b c d n head tail _ _ _ _ _ _ ih =>
    exact (ih.after ['\\', 'u', a, b, c, d]).map fun _ _ _ => ⟨trivial, rfl⟩
  | case6 a b c d n head tail _ _ _ _ _ _ ih =>
    exact (ih.after ['\\', 'u', a, b, c, d]).map fun _ _ _ => ⟨trivial, rfl⟩
  | case7 a b c d n head tail _ _ _ _ ih => exact ih.after ['\\', 'u', a, b, c, d]
  | case8 a b c d n head tail _ _ _ _ ih =>
    exact (ih.after ['\\', 'u', a, b, c, d]).map fun _ _ _ => ⟨trivial, rfl⟩
  | case12 held e rest _ x _ _ ih =>
    exact (ih.after ['\\', e]).map fun _ _ _ => ⟨trivial, rfl⟩
  | case14 held c rest _ _ _ ih => exact (ih.after [c]).map fun _ _ _ => ⟨trivial, rfl⟩
  | _ => exact trivial

theorem reads_literal (t : Text) : Reads (fun _ => True) t (readLiteral t) :=
  reads_literalAfter _ none t

/-! ## Numbers -/

theorem readDigits_eq (t : Text) :
    readDigits t = (t.takeWhile CodePoint.isDigit, t.dropWhile CodePoint.isDigit) :=
  List.span_eq_takeWhile_dropWhile _ t

theorem readDigits_append (t : Text) : (readDigits t).1 ++ (readDigits t).2 = t := by
  rw [readDigits_eq]
  exact List.takeWhile_append_dropWhile

theorem all_isDigit_readDigits (t : Text) : (readDigits t).1.all CodePoint.isDigit = true := by
  rw [readDigits_eq]
  exact List.all_takeWhile

/-- The digits before the point, as they stand in the text. -/
theorem readWhole?_eq_some {whole rest : Text} (h : readWhole? t = some (whole, rest)) :
    t = whole ++ rest ∧ whole.all CodePoint.isDigit = true := by
  cases t with
  | nil => cases h
  | cons c t =>
    rw [readWhole?] at h
    split at h
    next hc =>
      obtain ⟨rfl, rfl⟩ := Prod.mk.inj (Option.some.inj h)
      exact ⟨rfl, by rw [hc]; decide⟩
    next =>
      split at h
      next =>
        have hdigits := Option.some.inj h
        have happend := readDigits_append (c :: t)
        have hall := all_isDigit_readDigits (c :: t)
        rw [hdigits] at happend hall
        exact ⟨happend.symm, hall⟩
      next => cases h

theorem readDigits_suffix (t : Text) : (readDigits t).2 <:+ t :=
  ⟨_, readDigits_append t⟩

theorem readFraction_suffix (t : Text) : (readFraction t).2 <:+ t := by
  cases t with
  | nil => exact List.suffix_rfl
  | cons c rest =>
    have hdigits := (readDigits_suffix rest).trans (List.suffix_cons c rest)
    rw [readFraction]
    split
    · exact List.suffix_rfl
    next digits after hne =>
      rw [hne] at hdigits
      split
      · exact hdigits
      · exact List.suffix_rfl

theorem readSign_suffix (t : Text) : (readSign t).2 <:+ t := by
  cases t with
  | nil => exact List.suffix_rfl
  | cons c rest =>
    rw [readSign]
    split
    · exact List.suffix_cons c rest
    · split
      · exact List.suffix_cons c rest
      · exact List.suffix_rfl

theorem readExponent_suffix (t : Text) : (readExponent t).2 <:+ t := by
  cases t with
  | nil => exact List.suffix_rfl
  | cons c rest =>
    have hdigits := ((readDigits_suffix (readSign rest).2).trans (readSign_suffix rest)).trans
      (List.suffix_cons c rest)
    rw [readExponent]
    dsimp only
    split
    · exact List.suffix_rfl
    next digits after hne =>
      rw [hne] at hdigits
      split
      · exact hdigits
      · exact List.suffix_rfl

/-- A number is read from the beginning of a text, with the digits that stand there. -/
theorem readNumber?_eq_some {n : Number} {rest : Text} (h : readNumber? t = some (n, rest)) :
    rest <:+ t ∧ n.whole <:+: t ∧ n.whole.all CodePoint.isDigit = true := by
  unfold readNumber? at h
  obtain ⟨⟨whole, after⟩, hwhole, heq⟩ := Option.map_eq_some_iff.mp h
  obtain ⟨rfl, rfl⟩ := Prod.mk.inj heq
  obtain ⟨htext, hdigits⟩ := readWhole?_eq_some hwhole
  have hunsigned : whole ++ after <:+ t := by
    rw [← htext]
    split
    · exact List.tail_suffix t
    · exact List.suffix_rfl
  refine ⟨?_, (List.prefix_append whole after).isInfix.trans hunsigned.isInfix, hdigits⟩
  exact ((readExponent_suffix _).trans (readFraction_suffix after)).trans
    ((List.suffix_append whole after).trans hunsigned)

/-! ## Values -/

/-- A property of values that everything has that is read: it goes from the parts of a value to the
value. -/
structure IsKept (P : Value → Prop) : Prop where
  null : P .null
  bool : ∀ b, P (.bool b)
  int : ∀ n, P (.int n)
  float : ∀ x, P (.float x)
  text : ∀ t, P (.text t)
  list : ∀ items, (∀ v ∈ items, P v) → P (.list items)
  object : ∀ members, (∀ m ∈ members, P m.2) → P (objectOf members)

theorem reads_number {P : Value → Prop} (hP : IsKept P) {n : Number} {rest : Text}
    (h : readNumber? t = some (n, rest)) : Reads P t (n.value.map (·, rest)) := by
  obtain ⟨hrest, hinfix, hdigits⟩ := readNumber?_eq_some h
  unfold Number.value
  split
  · split
    next => exact ⟨hP.int _, hrest⟩
    next hlong => exact ⟨n.whole, hinfix, hdigits, rfl, Nat.lt_of_not_le hlong⟩
  · exact ⟨hP.float _, hrest⟩

theorem dropStart?_suffix {start t rest : Text} (h : Text.dropStart? start t = some rest) :
    rest <:+ t :=
  ⟨start, (Text.eq_append_of_dropStart? h).symm⟩

theorem reads_scalar {P : Value → Prop} (hP : IsKept P) (t : Text) :
    Reads P t (readScalar t) := by
  unfold readScalar
  split
  next found hfound =>
    obtain ⟨word, hword, heq⟩ := List.exists_of_findSome?_eq_some hfound
    obtain ⟨rest, hrest, rfl⟩ := Option.map_eq_some_iff.mp heq
    refine ⟨?_, dropStart?_suffix hrest⟩
    have hwords : ∀ word ∈ words, P word.2 := by simp [words, hP.null, hP.bool]
    exact hwords word hword
  next =>
    split
    · exact trivial
    · split
      next number rest hnumber => exact reads_number hP hnumber
      next => exact trivial

section Kept

variable {P : Value → Prop}

mutual

/-- **What the reader of values does**: it reads a value with any property that is kept. -/
theorem reads_value (hP : IsKept P) : ∀ (fuel : Nat) (t : Text),
    Reads P t (readValue fuel t)
  | 0, t => trivial
  | fuel + 1, [] => trivial
  | fuel + 1, c :: rest => by
    have hinside : skipSpaces rest <:+ c :: rest :=
      (skipSpaces_suffix rest).trans (List.suffix_cons c rest)
    rw [readValue]
    split
    · exact ((reads_literal rest).after [c]).map fun t _ _ => ⟨hP.text t, rfl⟩
    · split
      · dsimp only
        split
        · exact ⟨hP.list [] (by simp), (List.tail_suffix _).trans hinside⟩
        · refine ((reads_elements hP fuel (skipSpaces rest)).of_suffix hinside).map ?_
          exact fun items _ hitems => ⟨hP.list items hitems, rfl⟩
      · split
        · dsimp only
          split
          · exact ⟨hP.object [] (by simp), (List.tail_suffix _).trans hinside⟩
          · refine ((reads_members hP fuel (skipSpaces rest)).of_suffix hinside).map ?_
            exact fun members _ hmembers => ⟨hP.object members hmembers, rfl⟩
        · exact reads_scalar hP (c :: rest)

/-- What the reader of elements does. -/
theorem reads_elements (hP : IsKept P) : ∀ (fuel : Nat) (t : Text),
    Reads (fun items : List Value => ∀ v ∈ items, P v) t (readElements fuel t)
  | 0, t => trivial
  | fuel + 1, t => by
    rw [readElements]
    refine (reads_value hP fuel t).bind fun v rest hv => ?_
    refine Reads.of_suffix (skipSpaces_suffix rest) ?_
    dsimp only
    split
    · exact ⟨by simpa using hv, List.tail_suffix _⟩
    · refine Reads.expect_bind fun after => ?_
      refine Reads.of_suffix ((skipSpaces_suffix after).trans (List.suffix_cons _ after)) ?_
      refine (reads_elements hP fuel _).bind fun items rest hitems => ?_
      exact ⟨List.forall_mem_cons.mpr ⟨hv, hitems⟩, List.suffix_rfl⟩

/-- What the reader of members does. -/
theorem reads_members (hP : IsKept P) : ∀ (fuel : Nat) (t : Text),
    Reads (fun members : List (Text × Value) => ∀ m ∈ members, P m.2) t (readMembers fuel t)
  | 0, t => trivial
  | fuel + 1, t => by
    rw [readMembers]
    refine Reads.expect_bind fun rest => ?_
    refine Reads.of_suffix (List.suffix_cons _ rest) ?_
    refine (reads_literal rest).bind fun name rest _ => ?_
    refine Reads.of_suffix (skipSpaces_suffix rest) ?_
    refine Reads.expect_bind fun rest => ?_
    refine Reads.of_suffix ((skipSpaces_suffix rest).trans (List.suffix_cons _ rest)) ?_
    refine (reads_value hP fuel _).bind fun v rest hv => ?_
    refine Reads.of_suffix (skipSpaces_suffix rest) ?_
    dsimp only
    split
    · exact ⟨by simpa using hv, List.tail_suffix _⟩
    · refine Reads.expect_bind fun after => ?_
      refine Reads.of_suffix ((skipSpaces_suffix after).trans (List.suffix_cons _ after)) ?_
      refine (reads_members hP fuel _).bind fun members rest hmembers => ?_
      exact ⟨List.forall_mem_cons.mpr ⟨hv, hmembers⟩, List.suffix_rfl⟩

end

end Kept

theorem isPlain_objectOf {members : List (Text × Value)} (h : ∀ m ∈ members, m.2.isPlain = true) :
    (objectOf members).isPlain = true := by
  rw [objectOf, Value.isPlain, Value.areEntriesPlain_iff]
  intro key v hv
  obtain ⟨⟨name, w⟩, hmem, heq⟩ := List.mem_map.mp hv
  obtain ⟨rfl, rfl⟩ := Prod.mk.inj heq
  exact ⟨⟨name, rfl⟩, h _ (Entries.mem_of_mem_collapse hmem)⟩

/-- What documents can write is kept. -/
theorem isKept_isPlain : IsKept fun v => v.isPlain = true where
  null := rfl
  bool _ := rfl
  int _ := rfl
  float _ := rfl
  text _ := rfl
  list _ h := Value.arePlain_iff.mpr h
  object _ h := isPlain_objectOf h

/-! ## Documents -/

theorem readDocument_ends {P : Value → Prop} (hP : IsKept P) (t : Text) :
    (∃ v, readDocument t = .ok v ∧ P v) ∨
      ∃ flaw, readDocument t = .error flaw ∧ flaw.IsOf t := by
  have hvalue :=
    (reads_value hP (2 * t.length + 2) (skipSpaces t)).of_suffix (skipSpaces_suffix t)
  unfold readDocument
  generalize readValue (2 * t.length + 2) (skipSpaces t) = r at hvalue ⊢
  rcases r with flaw | ⟨v, rest⟩
  · exact .inr ⟨flaw, rfl, hvalue⟩
  · simp only [bind, Except.bind]
    cases skipSpaces rest with
    | nil => exact .inl ⟨v, rfl, hvalue.1⟩
    | cons c rest => exact .inr ⟨_, rfl, trivial⟩

/-- **Decoding a text** ends with a value that has whatever is kept, or with a flaw of the text. -/
theorem decode_ends {P : Value → Prop} (hP : IsKept P) (t : Text) :
    (∃ v, decode t = .ok v ∧ P v) ∨ ∃ flaw, decode t = .error flaw ∧ flaw.IsOf t := by
  unfold decode
  split
  · exact .inr ⟨_, rfl, trivial⟩
  · exact readDocument_ends hP t

end Json

/-! ## Classifying what was read -/

/-- Whatever a document writes can be classified. -/
theorem Value.isCovered_of_isPlain {s : Strategy} {v : Value} (h : v.isPlain = true) :
    v.isCovered s = true := by
  induction v using walk_induction with
  | array v items hitems ih =>
    rw [isCovered_of_items hitems]
    rcases items?_eq_some_iff.mp hitems with rfl | rfl
    · rw [isPlain, arePlain_iff] at h
      intro w hw
      have hmem := Strategy.mem_of_mem_sampleFrom hw
      exact ih w hmem (h w hmem)
    · cases h
  | object v entries hentries ih =>
    obtain rfl := entries?_eq_some_iff.mp hentries
    rw [isPlain, areEntriesPlain_iff] at h
    rw [isCovered_of_entries hentries]
    intro key w hw
    obtain ⟨⟨t, rfl⟩, hplain⟩ := h key w hw
    exact ⟨rfl, ih _ w hw hplain⟩
  | leaf v hitems hentries =>
    rw [isCovered_of_leaf hitems hentries]
    cases v with
    | null | bool | int | float | text | list | dictionary => rfl
    | _ => cases h

namespace Document

/-- The text of a document: what it is, or what its bytes decode to. -/
def text? (document : Value) : Option Text :=
  match document.asText?, document with
  | some t, _ => some t
  | none, .bytes false octets => (Utf8.decode octets).toOption
  | none, _ => none

/-- Whether a document is given as a text or as bytes. -/
def isTextOrBytes (document : Value) : Bool :=
  match document with
  | .bytes mutable _ => !mutable
  | v => v.asText?.isSome

/-- Only what is decoded is returned. -/
theorem ofDecoded_ok_iff {t : Text} {r : Except Json.Flaw Value} {v : Value} :
    (ofDecoded t r).outcome = .ok v ↔ r = .ok v := by
  cases r with
  | ok w => exact ⟨fun h => congrArg _ (Except.ok.inj h), fun h => congrArg _ (Except.ok.inj h)⟩
  | error flaw => cases flaw <;> exact iff_of_false nofun nofun

/-- What is inferred is what classification returns for what is loaded. -/
theorem classify_of_inferWith {document : Value} {s : Strategy} {t : Shape}
    (h : (inferWith s document).outcome = .ok t) :
    ∃ v, (load document).outcome = .ok v ∧ (v.classify s).outcome = .ok t := by
  obtain ⟨v, hload, hrest⟩ := Logged.bind_ok_iff.mp h
  obtain ⟨t', hclassify, hreport⟩ := Logged.bind_ok_iff.mp hrest
  obtain ⟨-, -, ht⟩ := Logged.bind_ok_iff.mp hreport
  obtain rfl := Except.ok.inj ht
  exact ⟨v, hload, hclassify⟩

/-- What loading a document ends with: a value that documents can write, or a failure that the
document is at fault for. -/
def EndsFor (document : Value) : Except Failure Value → Prop
  | .ok v => v.isPlain = true
  | .error f => (∃ reason place, f = .invalidInput reason place) ∨
      ∃ t digits, text? document = some t ∧ digits <:+: t ∧
        digits.all CodePoint.isDigit = true ∧ Numeral.maxDigits < digits.length ∧
        f = .longLiteral digits.length

theorem endsFor_ofText {document : Value} {t : Text} (h : text? document = some t) :
    EndsFor document (ofText t).outcome := by
  unfold ofText
  rcases Json.decode_ends Json.isKept_isPlain t with ⟨v, hv, hplain⟩ | ⟨flaw, hflaw, hof⟩
  · rw [hv]
    exact hplain
  · rw [hflaw]
    cases flaw with
    | malformed reason rest => exact .inl ⟨_, _, rfl⟩
    | constant name => exact .inl ⟨_, _, rfl⟩
    | longInteger n =>
      obtain ⟨digits, hinfix, hdigits, rfl, hlong⟩ := hof
      exact .inr ⟨t, digits, h, hinfix, hdigits, hlong, rfl⟩

/-- **Loading a document** that is given as a text or as bytes ends in one of these ways. -/
theorem endsFor_load {document : Value} (h : isTextOrBytes document = true) :
    EndsFor document (load document).outcome := by
  unfold load
  cases htext : document.asText? with
  | some t => exact endsFor_ofText (by unfold text?; rw [htext])
  | none =>
    obtain ⟨octets, rfl⟩ : ∃ octets, document = .bytes false octets := by
      unfold isTextOrBytes at h
      split at h
      next isMutable octets =>
        obtain rfl : isMutable = false := by simpa using h
        exact ⟨octets, rfl⟩
      next =>
        rw [htext] at h
        cases h
    show EndsFor _ (ofBytes octets).outcome
    unfold ofBytes
    cases hutf8 : Utf8.decode octets with
    | ok t => exact endsFor_ofText (by simp only [text?, htext, hutf8, Except.toOption])
    | error e => exact .inl ⟨_, _, rfl⟩

/-- **How inference ends**: for a document given as a text or as bytes and any valid strategy it
returns a shape, or fails because the input is no well-formed document, or because an integer with
more digits than numerals may have stands in it. -/
theorem inference_fails_by_input_or_long_integer {document strategy : Value} {s : Strategy}
    (hdocument : isTextOrBytes document = true) (hstrategy : Strategy.ofValue strategy = .ok s) :
    (∃ t, (infer document strategy).outcome = .ok t) ∨
    (∃ reason place,
      (infer document strategy).outcome = .error (.invalidInput reason place)) ∨
    ∃ t digits, text? document = some t ∧ digits <:+: t ∧
      digits.all CodePoint.isDigit = true ∧ Numeral.maxDigits < digits.length ∧
      (infer document strategy).outcome = .error (.longLiteral digits.length) := by
  have hinfer : (infer document strategy).outcome = (inferWith s document).outcome :=
    Logged.outcome_bind_of_ok hstrategy _
  rw [hinfer]
  have hends := endsFor_load hdocument
  unfold inferWith
  cases hload : (load document).outcome with
  | ok v =>
    -- a value that was read is classified, and then nothing can fail
    have hplain : v.isPlain = true := by rwa [hload] at hends
    have hclassify : (v.classify s).outcome = .ok (v.shapeOf s) :=
      Value.classify_ok_iff.mpr ⟨Value.isCovered_of_isPlain hplain, rfl⟩
    rw [Logged.outcome_bind_of_ok hload, Logged.outcome_bind_of_ok hclassify]
    exact .inl ⟨v.shapeOf s, rfl⟩
  | error f =>
    rw [hload] at hends
    rw [Logged.outcome_bind_of_error hload]
    rcases hends with ⟨reason, place, rfl⟩ | ⟨t, digits, ht, hinfix, hdigits, hlength, rfl⟩
    · exact .inr (.inl ⟨reason, place, rfl⟩)
    · exact .inr (.inr ⟨t, digits, ht, hinfix, hdigits, hlength, rfl⟩)

/-! ## Long integers

The last of these ways is taken: a document may be nothing but an integer with too many digits. -/

/-- A number of ones, one after the other. -/
def ones (n : Nat) : Text :=
  List.replicate n '1'

theorem all_isDigit_ones (n : Nat) : (ones n).all CodePoint.isDigit = true := by
  rw [ones, List.all_replicate]
  cases n <;> rfl

theorem readNumber?_ones (n : Nat) :
    Json.readNumber? (ones (n + 1)) = some (⟨false, ones (n + 1), none, none⟩, []) := by
  have hdigits : Json.readDigits (ones (n + 1)) = (ones (n + 1), []) := by
    have hall := List.all_eq_true.mp (all_isDigit_ones (n + 1))
    rw [Json.readDigits_eq, List.takeWhile_eq_self_iff.mpr hall, List.dropWhile_eq_nil_iff.mpr hall]
  have hwhole : Json.readWhole? (ones (n + 1)) = some (ones (n + 1), []) := by
    rw [← hdigits]
    rfl
  have hsign : ¬(ones (n + 1)).head? = some ('-' : CodePoint) := by
    show ¬some ('1' : CodePoint) = some ('-' : CodePoint)
    decide
  unfold Json.readNumber?
  dsimp only
  rw [if_neg hsign, hwhole, decide_eq_false hsign]
  rfl

/-- The reader of documents gives up at an integer that is too long. -/
theorem readDocument_ones {n : Nat} (h : Numeral.maxDigits < n) :
    Json.readDocument (ones n) = .error (.longInteger n) := by
  obtain ⟨n, rfl⟩ := Nat.exists_eq_add_one_of_ne_zero (Nat.ne_zero_of_lt h)
  have hlength : (ones (n + 1)).length = n + 1 := List.length_replicate
  have hscalar : Json.readScalar (ones (n + 1)) = .error (.longInteger (n + 1)) := by
    have hwords : (Json.words.findSome? fun word =>
        (Text.dropStart? word.1 (ones (n + 1))).map (word.2, ·)) = none := rfl
    have hconstants : (Json.constants.find? fun name =>
        (Text.dropStart? name (ones (n + 1))).isSome) = none := rfl
    unfold Json.readScalar
    rw [hwords, hconstants, readNumber?_ones]
    simp only [Json.Number.value, Json.Number.isInteger, hlength, Nat.not_le.mpr h]
    rfl
  have hspaces : Json.skipSpaces (ones (n + 1)) = ones (n + 1) := rfl
  have hvalue : ∀ fuel, Json.readValue (fuel + 1) (ones (n + 1)) =
      .error (.longInteger (n + 1)) := fun fuel => by
    rw [← hscalar]
    rfl
  unfold Json.readDocument
  rw [hspaces, hvalue]
  rfl

theorem outcome_infer_ones {n : Nat} (h : Numeral.maxDigits < n) :
    (infer (.text (ones n)) (.strategy .all)).outcome = .error (.longLiteral n) := by
  have hmark : ¬(ones n).head?.any (·.val = 0xFEFF) := by
    cases n with
    | zero => simp [ones]
    | succ n => simp [ones, List.replicate_succ]; decide
  have hload : (load (.text (ones n))).outcome = .error (.longLiteral n) := by
    show (ofDecoded (ones n) (Json.decode (ones n))).outcome = _
    rw [Json.decode, if_neg hmark, readDocument_ones h]
    rfl
  have hstrategy : Strategy.ofValue (.strategy .all) = .ok .all := rfl
  rw [infer, Logged.outcome_bind_of_ok hstrategy, inferWith, Logged.outcome_bind_of_error hload]

/-- An integer of one digit more than numerals may have is a document that inference fails for,
though not because the input is invalid. -/
theorem inference_fails_of_4301_ones :
    Strategy.ofValue (.strategy .all) = .ok .all ∧
    (infer (.text (ones 4301)) (.strategy .all)).outcome = .error (.longLiteral 4301) :=
  ⟨rfl, outcome_infer_ones (by decide)⟩

theorem inference_fails_by_input_or_long_integer_of_ones :
    isTextOrBytes (.text (ones 4301)) = true ∧ Strategy.ofValue (.strategy .all) = .ok .all ∧
    ∃ digits, digits <:+: ones 4301 ∧ digits.length = 4301 ∧
      (infer (.text (ones 4301)) (.strategy .all)).outcome =
        .error (.longLiteral digits.length) := by
  have houtcome := outcome_infer_ones (n := 4301) (by decide)
  have hdocument : isTextOrBytes (.text (ones 4301)) = true := rfl
  have hstrategy : Strategy.ofValue (.strategy .all) = .ok .all := rfl
  refine ⟨hdocument, hstrategy, ?_⟩
  rcases inference_fails_by_input_or_long_integer hdocument hstrategy
    with ⟨t, ht⟩ | ⟨reason, place, h⟩ | ⟨t, digits, ht, hinfix, -, -, h⟩
  · rw [houtcome] at ht
    cases ht
  · rw [houtcome] at h
    cases h
  · obtain rfl : ones 4301 = t := Option.some.inj ht
    have hlength : 4301 = digits.length :=
      Failure.longLiteral.inj (Except.error.inj (houtcome.symm.trans h))
    exact ⟨digits, hinfix, hlength.symm, h⟩

end Document

end ShapeInference
