import ShapeInference.Text.Basic

/-!
# Patterns

A pattern describes a set of texts by union, concatenation and repetition. A text is matched code
point by code point: what may follow a first code point is a pattern again.

- `Pattern`: the patterns;
- `Pattern.after`: what may follow a code point;
- `Pattern.accepts`: whether a text belongs to a pattern as a whole.
-/

namespace ShapeInference

/-- A set of texts. -/
inductive Pattern where
  /-- No text. -/
  | never
  /-- The empty text. -/
  | blank
  /-- A single code point of a class. -/
  | one (allowed : CodePoint → Bool)
  /-- A text of the first pattern followed by one of the second. -/
  | seq (p q : Pattern)
  /-- A text of either pattern. -/
  | alt (p q : Pattern)
  /-- Any number of texts of a pattern one after the other. -/
  | star (p : Pattern)

namespace Pattern

/-- Whether the empty text belongs to a pattern. -/
def acceptsBlank : Pattern → Bool
  | never => false
  | blank => true
  | one _ => false
  | seq p q => p.acceptsBlank && q.acceptsBlank
  | alt p q => p.acceptsBlank || q.acceptsBlank
  | star _ => true

/-- A concatenation, which is empty if either part is. -/
def joined : Pattern → Pattern → Pattern
  | never, _ => never
  | blank, q => q
  | p, q => seq p q

/-- A union, where nothing is added to a pattern by the empty one. -/
def either : Pattern → Pattern → Pattern
  | never, q => q
  | p, never => p
  | p, q => alt p q

/-- What may follow a code point in the texts of a pattern. -/
def after (c : CodePoint) : Pattern → Pattern
  | never => never
  | blank => never
  | one allowed => if allowed c then blank else never
  | seq p q =>
    if p.acceptsBlank then either (joined (after c p) q) (after c q) else joined (after c p) q
  | alt p q => either (after c p) (after c q)
  | star p => joined (after c p) (star p)

/-- Whether a text belongs to a pattern. -/
def accepts (p : Pattern) : Text → Bool
  | [] => p.acceptsBlank
  | c :: rest => (p.after c).accepts rest

/-- One code point. -/
def char (c : CodePoint) : Pattern := one (· = c)

/-- One code point out of several. -/
def anyOf (t : Text) : Pattern := one t.contains

/-- The code points of a text in order. -/
def exactly (t : Text) : Pattern := t.foldr (fun c p => seq (char c) p) blank

/-- One of several texts. -/
def words (ts : List Text) : Pattern := ts.foldr (fun t p => alt (exactly t) p) never

/-- Patterns one after the other. -/
def sequence (ps : List Pattern) : Pattern := ps.foldr seq blank

/-- One of several patterns. -/
def choice (ps : List Pattern) : Pattern := ps.foldr alt never

/-- A text of a pattern or none. -/
def optional (p : Pattern) : Pattern := alt p blank

/-- At least one text of a pattern. -/
def plus (p : Pattern) : Pattern := seq p (star p)

/-- A decimal digit. -/
def digit : Pattern := one CodePoint.isDigit

end Pattern

end ShapeInference
