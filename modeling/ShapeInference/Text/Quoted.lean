import ShapeInference.Text.Printable

/-!
# Quoted texts in messages

A text or a sequence of bytes is shown between single quotes, or between double quotes if that
avoids escaping a single quote. What cannot be shown is escaped by its number.

- `Text.quoted`: a text between quotes;
- `Bytes.quoted`: bytes between quotes;
- `quoteFor`: the quote chosen.
-/

namespace ShapeInference

/-- Double quotes around what holds a single quote and no double quote, single quotes otherwise. -/
def quoteFor (single double : Bool) : CodePoint :=
  if single && !double then '"' else '\''

namespace Text

/-- A code point by its number, in the shortest of the three forms that can hold it. -/
def numericEscape (c : CodePoint) : Text :=
  if c.val < 0x100 then ("\\x" : Text) ++ hex 2 c.val
  else if c.val < 0x10000 then ("\\u" : Text) ++ hex 4 c.val
  else ("\\U" : Text) ++ hex 8 c.val

/-- How a code point is shown between quotes of a kind. -/
def quotedPoint (quote c : CodePoint) : Text :=
  if c = quote || c = '\\' then ['\\', c]
  else if c = '\n' then "\\n"
  else if c = '\r' then "\\r"
  else if c = '\t' then "\\t"
  else if c.isPrintable then [c]
  else numericEscape c

/-- A text between quotes. -/
def quoted (t : Text) : Text :=
  let quote := quoteFor (t.contains ('\'' : CodePoint)) (t.contains ('"' : CodePoint))
  quote :: (t.flatMap (quotedPoint quote) ++ [quote])

end Text

namespace Bytes

/-- How a byte is shown between quotes, with a backslash before the code points for which `escaped`
holds. -/
def quotedByte (escaped : CodePoint → Bool) (b : UInt8) : Text :=
  let c := CodePoint.ofNat b.toNat
  if escaped c || c = '\\' then ['\\', c]
  else if c = '\n' then "\\n"
  else if c = '\r' then "\\r"
  else if c = '\t' then "\\t"
  else if 0x20 ≤ c.val && c.val < 0x7F then [c]
  else Text.numericEscape c

/-- The quote for a sequence of bytes. -/
def quote (bytes : List UInt8) : CodePoint :=
  quoteFor (bytes.contains 0x27) (bytes.contains 0x22)

/-- Bytes between quotes. -/
def quoted (bytes : List UInt8) : Text :=
  quote bytes :: (bytes.flatMap (quotedByte (· = quote bytes)) ++ [quote bytes])

/-- Bytes between quotes as a mutable buffer shows them: single quotes are always escaped. -/
def quotedBuffer (bytes : List UInt8) : Text :=
  quote bytes :: (bytes.flatMap (quotedByte (· = '\'')) ++ [quote bytes])

end Bytes

end ShapeInference
