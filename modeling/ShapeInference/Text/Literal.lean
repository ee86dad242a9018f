import ShapeInference.Text.Basic

/-!
# String literals of JSON

A text between quotes, with a backslash before what cannot stand there itself.

- `Literal.escape`: how one code point is written, with or without the restriction to ASCII;
- `Literal.write`: a text as a string literal.
-/

namespace ShapeInference

namespace Literal

/-- A backslash, the letter `u` and four hexadecimal digits. -/
def escapeUnit (n : Nat) : Text :=
  '\\' :: 'u' :: Text.hex 4 n

/-- A code point by its number; one beyond `0xFFFF` takes a surrogate pair. -/
def escapeNumber (c : CodePoint) : Text :=
  if c.val < 0x10000 then escapeUnit c.val
  else
    escapeUnit (0xD800 + (c.val - 0x10000) / 0x400)
      ++ escapeUnit (0xDC00 + (c.val - 0x10000) % 0x400)

/-- The letter that stands for a code point after a backslash. -/
def shortEscape? (c : CodePoint) : Option CodePoint :=
  if c = '"' then some '"'
  else if c = '\\' then some '\\'
  else if c = '\n' then some 'n'
  else if c = '\r' then some 'r'
  else if c = '\t' then some 't'
  else if c.val = 0x0C then some 'f'
  else if c.val = 0x08 then some 'b'
  else none

/-- A code point inside a literal: a short escape if it has one, a numeric escape if it is a control
character or, in an ASCII literal, beyond the tilde, and itself otherwise. -/
def escape (ascii : Bool) (c : CodePoint) : Text :=
  match shortEscape? c with
  | some letter => ['\\', letter]
  | none => if c.val < 0x20 || (ascii && 0x7E < c.val) then escapeNumber c else [c]

/-- A text as a string literal. -/
def write (ascii : Bool) (t : Text) : Text :=
  '"' :: (t.flatMap (escape ascii) ++ ("\"" : Text))

end Literal

end ShapeInference
