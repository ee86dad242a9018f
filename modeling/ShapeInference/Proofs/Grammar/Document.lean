import ShapeInference.Proofs.Grammar.Reading
import ShapeInference.Proofs.Utf8

/-!
# The grammar of documents

A document is one value with gaps around it. Loading accepts what this grammar derives as long as
its integers have no more digits than numerals may have, and returns what the derivation says. In
bytes a document is the encoding of its text.

- `Json.IsDocument`: the grammar of documents;
- `Json.readDocument_ok_iff`, `Json.decode_ok_iff`: which texts are decoded, and to what;
- `Document.Accepts`: the values that a text is accepted with;
- `Document.loads_exactly_the_grammar`: loading accepts exactly what the grammar derives.
-/

namespace ShapeInference

namespace Json

variable {t rest : Text} {x : Tree}

/-- A text is a document: a value with gaps around it. -/
def IsDocument (x : Tree) (t : Text) : Prop :=
  ∃ before u after, t = before ++ (u ++ after) ∧ IsGap before ∧ Derives (.value x) u ∧ IsGap after

/-- **What the grammar derives is decoded** as what it says. -/
theorem readDocument_of_isDocument (h : IsDocument x t) :
    readDocument t = result x.numbers x.value := by
  obtain ⟨before, u, after, rfl, hbefore, hvalue, hafter⟩ := h
  have hend : EndsValue after := by
    rw [← List.append_nil after]
    exact endsValue_gap hafter (by simp [EndsValue, Text.GoesOnWith])
  have hfuel : 2 * u.length + 1 ≤ 2 * (before ++ (u ++ after)).length + 2 := by
    simp only [List.length_append]
    omega
  unfold readDocument
  rw [skipSpaces_part hbefore hvalue, isRead_of_derives hvalue _ after hfuel hend]
  refine result_bind_ok ?_
  dsimp only
  rw [skipSpaces_of_isGap hafter]
  rfl

/-- **Whatever is decoded is derived** by the grammar. -/
theorem isDocument_of_readDocument {v : Value} (h : readDocument t = .ok v) :
    ∃ x, IsDocument x t := by
  obtain ⟨⟨v', rest⟩, hvalue, hrest⟩ := Except.bind_ok_iff.mp h
  obtain ⟨x, u, hu, hx⟩ := (isSound _).value hvalue
  obtain ⟨before, hbefore, ht⟩ := exists_gap t
  obtain ⟨after, hafter, hrest'⟩ := exists_gap rest
  dsimp only at hrest
  split at hrest
  next hnil =>
    rw [hnil, List.append_nil] at hrest'
    exact ⟨x, before, u, after, by rw [ht, hu, hrest'], hbefore, hx, hafter⟩
  next => cases hrest

/-- **What is decoded**: what the grammar derives without integers that are too long. -/
theorem readDocument_ok_iff {v : Value} :
    readDocument t = .ok v ↔ ∃ x, IsDocument x t ∧ x.Fits ∧ x.value = v := by
  constructor
  · intro h
    obtain ⟨x, hx⟩ := isDocument_of_readDocument h
    rw [readDocument_of_isDocument hx] at h
    exact ⟨x, hx, result_ok_iff.mp h⟩
  · rintro ⟨x, hx, hfits⟩
    rw [readDocument_of_isDocument hx]
    exact result_ok_iff.mpr hfits

/-- No document begins with a byte order mark. -/
theorem IsDocument.not_marked (h : IsDocument x t) : t.head?.any (·.val = 0xFEFF) = false := by
  have hstart : ∀ {c : CodePoint}, c ∈ blanks ∨ startsValue c = true → ¬c.val = 0xFEFF := by
    intro c hc hmark
    obtain rfl : c = ⟨0xFEFF, by decide⟩ := Fin.ext hmark
    rcases hc with hc | hc
    · exact absurd hc (by decide)
    · exact absurd hc (by decide)
  obtain ⟨before, u, after, rfl, hbefore, hvalue, -⟩ := h
  obtain ⟨c, v, rfl, hc⟩ := hvalue.starts
  cases before with
  | nil => simpa using hstart (.inr hc)
  | cons d before => simpa using hstart (.inl (hbefore d List.mem_cons_self))

theorem decode_ok_iff {v : Value} :
    decode t = .ok v ↔ ∃ x, IsDocument x t ∧ x.Fits ∧ x.value = v := by
  rw [← readDocument_ok_iff]
  unfold decode
  split
  next hmark =>
    -- what begins with a byte order mark is no document anyway
    refine iff_of_false nofun fun h => ?_
    obtain ⟨x, hx⟩ := isDocument_of_readDocument h
    rw [hx.not_marked] at hmark
    cases hmark
  next => exact Iff.rfl

end Json

namespace Document

/-- The values that a text is accepted with: what a derivation of it says, if no integer in it has
more digits than numerals may have. -/
def Accepts (t : Text) (v : Value) : Prop :=
  ∃ x, Json.IsDocument x t ∧ x.Fits ∧ x.value = v

theorem ofText_ok_iff {t : Text} {v : Value} : (ofText t).outcome = .ok v ↔ Accepts t v :=
  ofDecoded_ok_iff.trans Json.decode_ok_iff

/-- **Loading accepts exactly what the grammar derives**, in a text or in the bytes that encode one,
and returns what the derivation says. Bytes that encode no text are invalid input. -/
theorem loads_exactly_the_grammar :
    (∀ document t v, document.asText? = some t →
      ((load document).outcome = .ok v ↔ Accepts t v)) ∧
    (∀ t v, t.isEncodable = true →
      ((load (.bytes false (Utf8.encode t))).outcome = .ok v ↔ Accepts t v)) ∧
    ∀ octets, (∀ t, t.isEncodable = true → Utf8.encode t ≠ octets) →
      ∃ reason, (load (.bytes false octets)).outcome = .error (.invalidInput reason none) := by
  refine ⟨fun document t v h => ?_, fun t v h => ?_, fun octets h => ?_⟩
  · unfold load
    rw [h]
    exact ofText_ok_iff
  · show (ofBytes (Utf8.encode t)).outcome = .ok v ↔ _
    rw [ofBytes, Utf8.decode_encode h]
    exact ofText_ok_iff
  · show ∃ reason, (ofBytes octets).outcome = _
    unfold ofBytes
    cases hdecode : Utf8.decode octets with
    | ok t =>
      obtain ⟨hencodable, hencode⟩ := Utf8.decode_ok_iff.mp hdecode
      exact absurd hencode (h t hencodable)
    | error e => exact ⟨_, rfl⟩

/-- A document with a name that comes again, an integer, and a pair of escapes that are one code
point. -/
def repeatedName : Text :=
  "\x7b\"a\":null, \"b\":\"\\ud83d\\uDE00\",\"a\": -120\x7d"

/-- What that document says. -/
def valueOfRepeatedName : Value :=
  .dictionary [(.text "a", .int (-120)), (.text "b", .text [.ofNat 0x1F600])]

/-- The grammar derives that document. -/
theorem accepts_repeatedName : Accepts repeatedName valueOfRepeatedName := by
  have ha : Json.Spells [.plain 'a'] "a" := .unescaped (by decide) (by decide) (by decide) .nil
  have hb : Json.Spells [.plain 'b'] "b" := .unescaped (by decide) (by decide) (by decide) .nil
  have hnull : (Text.ofString "null", Json.Tree.null) ∈ Json.Tree.words := .head _
  have hpair : Json.Spells [.numeric (.ofNat 0xD83D), .numeric (.ofNat 0xDE00)]
      "\\ud83d\\uDE00" :=
    .numeric (i := 0xD) (j := 8) (k := 3) (l := 0xD) (by decide) (by decide) (by decide)
      (by decide)
      (.numeric (i := 0xD) (j := 0xE) (k := 0) (l := 0) (by decide) (by decide) (by decide)
        (by decide) .nil)
  have hnumber : Json.Number.IsWritten ⟨true, "120", none, none⟩ "-120" :=
    .parts (.digits (by decide) (Json.areDigits_iff.mpr (by decide))) .none .none
  have hempty : Json.IsGap [] := nofun
  have hspace : Json.IsGap [' '] := List.forall_mem_singleton.mpr (by decide)
  have hmembers := Json.Derives.nextMember (.member ha hempty hempty (.word hnull)) hempty hspace
    (.nextMember (.member hb hempty hempty (.string hpair)) hempty hempty
      (.lastMember (.member ha hempty hspace (.number hnumber)) hempty))
  refine ⟨_, ⟨[], repeatedName, [], rfl, hempty, .object hempty hmembers, hempty⟩, ?_, ?_⟩
  · exact List.forall_mem_singleton.mpr fun _ _ => by decide
  · rfl

/-- A document with the name of a number that is not finite. -/
def notFinite : Text :=
  "[-Infinity]"

theorem loads_exactly_the_grammar_of_repeated_name :
    (load (.text repeatedName)).outcome = .ok valueOfRepeatedName ∧
    repeatedName.isEncodable = true ∧
    (load (.bytes false (Utf8.encode repeatedName))).outcome = .ok valueOfRepeatedName ∧
    (∀ v, ¬Accepts notFinite v) ∧ (∀ t, t.isEncodable = true → Utf8.encode t ≠ [0xFF]) ∧
    ∃ reason, (load (.bytes false [0xFF])).outcome = .error (.invalidInput reason none) := by
  obtain ⟨htext, hbytes, hmalformed⟩ := loads_exactly_the_grammar
  have hencodable : repeatedName.isEncodable = true := by decide
  have hrefused : (load (.text notFinite)).outcome.isOk = false := by decide +kernel
  have hoctets : ∀ t, t.isEncodable = true → Utf8.encode t ≠ [0xFF] := by
    intro t ht hencode
    cases Utf8.decode_ok_iff.mpr ⟨ht, hencode⟩
  refine ⟨(htext _ _ _ rfl).mpr accepts_repeatedName, hencodable,
    (hbytes _ _ hencodable).mpr accepts_repeatedName, fun v hv => ?_, hoctets,
    hmalformed _ hoctets⟩
  rw [(htext (.text notFinite) notFinite v rfl).mpr hv] at hrefused
  cases hrefused

end Document

end ShapeInference
