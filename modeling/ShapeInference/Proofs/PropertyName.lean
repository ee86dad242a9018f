import ShapeInference.Proofs.Grammar.Literal
import ShapeInference.Proofs.Writing

/-!
# Property names are read back

A property name stands bare, or as a string literal between brackets. The literal is restricted to
ASCII only if half of a surrogate pair is in the name, and either way it says the name and can stand
in a line. Brackets and quotes make it longer than the name, so what stands bare is never mistaken
for it.

- `Json.decode_of_isLiteral`: a document that is a string literal holds the text that it says;
- `Declaration.property_eq_self_iff`: only identifiers stand bare;
- `Declaration.property_inj`: property names are told by how they are written;
- `Declaration.property_names_are_read_back`: how property names are written, and read back.
-/

namespace ShapeInference

/-- A document that is nothing but a string literal holds the text that the literal says. -/
theorem Json.decode_of_isLiteral {literal t : Text} (h : IsLiteral literal t) :
    decode literal = .ok (.text t) := by
  obtain ⟨symbols, inside, rfl, hinside, rfl⟩ := h
  have hread : readLiteral (inside ++ ("\"" : Text)) = .ok (Symbol.join symbols, []) :=
    readLiteral_of_spells hinside []
  have hvalue : ∀ fuel, readValue (fuel + 1) (('"' : CodePoint) :: (inside ++ ("\"" : Text)))
      = .ok (.text (Symbol.join symbols), []) := by
    intro fuel
    rw [readValue, if_pos rfl, hread]
    rfl
  have hmark : ¬(List.head? (('"' : CodePoint) :: (inside ++ ("\"" : Text)))).any
      (·.val = 0xFEFF) = true := by
    show ¬decide ((('"' : Char) : CodePoint).val = 0xFEFF) = true
    decide
  have hspaces : skipSpaces (('"' : CodePoint) :: (inside ++ ("\"" : Text)))
      = ('"' : CodePoint) :: (inside ++ ("\"" : Text)) := rfl
  rw [decode, if_neg hmark, readDocument, hspaces, hvalue]
  rfl

namespace Literal

theorem escape_ne_nil (ascii : Bool) (c : CodePoint) : escape ascii c ≠ [] := by
  unfold escape
  split
  · simp
  · split
    · unfold escapeNumber escapeUnit
      split <;> simp
    · simp

/-- A literal is longer than the text that it is written for. -/
theorem length_lt_length_write (ascii : Bool) (t : Text) : t.length < (write ascii t).length := by
  have hbody : t.length ≤ (t.flatMap (escape ascii)).length := by
    induction t with
    | nil => exact Nat.le_refl 0
    | cons c t ih =>
      have hc := List.length_pos_of_ne_nil (escape_ne_nil ascii c)
      rw [List.flatMap_cons, List.length_append, List.length_cons]
      omega
  rw [write, List.length_cons, List.length_append]
  omega

end Literal

namespace Declaration

open Text

variable {name other : Text}

/-- A name that is no identifier is written as a literal between brackets. -/
theorem property_eq_literal (h : ¬name.isIdentifier = true) : property name =
    ("[" : Text) ++ Literal.write (name.any CodePoint.isSurrogate) name ++ ("]" : Text) :=
  if_neg h

/-- **Only identifiers stand bare.** -/
theorem property_eq_self_iff : property name = name ↔ name.isIdentifier = true := by
  refine ⟨fun h => ?_, fun h => if_pos h⟩
  by_contra hname
  have hlength := Literal.length_lt_length_write (name.any CodePoint.isSurrogate) name
  rw [property_eq_literal hname] at h
  have heq := congrArg List.length h
  rw [List.length_append, List.length_append] at heq
  omega

/-- **Property names are told** by how they are written. -/
theorem property_inj (hname : name.isUnpaired = true) (hother : other.isUnpaired = true)
    (h : property name = property other) : name = other := by
  have hcolon : GoesOnWith ":" (":" : Text) := goesOnWith_cons.mpr (by decide)
  have htold := tells_property hname hother ":" ":" hcolon hcolon
  exact (htold (by rw [h])).1

/-- **Property names are read back.** Unless the halves of a surrogate pair follow each other in a
name, it stands bare exactly if it is an identifier, and otherwise as a string literal between
brackets. This literal can stand in a line, says the name by the grammar, and is decoded to it. So
names with the same text are the same. -/
theorem property_names_are_read_back (hname : name.isUnpaired = true) :
    (property name = name ↔ name.isIdentifier = true) ∧
    (¬name.isIdentifier = true → ∃ literal : Text,
      property name = ("[" : Text) ++ literal ++ ("]" : Text) ∧
        (∀ c ∈ literal, 0x20 ≤ c.val ∧ c.isSurrogate = false) ∧
        Json.IsLiteral literal name ∧ Json.decode literal = .ok (.text name)) ∧
    ∀ other : Text, other.isUnpaired = true → property other = property name → other = name := by
  refine ⟨property_eq_self_iff, fun h => ?_, fun other hother heq => property_inj hother hname heq⟩
  have hliteral := Json.isLiteral_write hname (name.any CodePoint.isSurrogate)
  have hwritten := property_eq_literal h
  have hinline := isInline_property name
  rw [hwritten, List.all_append, List.all_append, Bool.and_eq_true, Bool.and_eq_true] at hinline
  refine ⟨_, hwritten, fun c hc => ?_, hliteral, Json.decode_of_isLiteral hliteral⟩
  exact CodePoint.isInline_iff.mp (List.all_eq_true.mp hinline.1.2 c hc)

/-- A name with a quote, a line end and a control character, where the second half of a surrogate
pair, a code point beyond `0xFFFF` and a first half follow each other. -/
def nameOfHalves : Text :=
  ("\"\\\n\x01" : Text) ++ [.ofNat 0xDC00, .ofNat 0x1F600, .ofNat 0xD83D]

theorem property_names_are_read_back_of_halves :
    nameOfHalves.isUnpaired = true ∧ ¬nameOfHalves.isIdentifier = true ∧
    property nameOfHalves =
      ("[\"\\\"\\\\\\n\\u0001\\udc00\\ud83d\\ude00\\ud83d\"]" : Text) ∧
    ∃ literal : Text, property nameOfHalves = ("[" : Text) ++ literal ++ ("]" : Text) ∧
      Json.decode literal = .ok (.text nameOfHalves) := by
  have hname : nameOfHalves.isUnpaired = true := by decide
  have hidentifier : ¬nameOfHalves.isIdentifier = true := by decide
  obtain ⟨-, hliteral, -⟩ := property_names_are_read_back hname
  obtain ⟨literal, hwritten, -, -, hdecode⟩ := hliteral hidentifier
  exact ⟨hname, hidentifier, by decide, literal, hwritten, hdecode⟩

end Declaration

end ShapeInference
