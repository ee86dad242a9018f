import ShapeInference.Text.Basic

/-!
# Blank code points

- `CodePoint.isBlank`: white space of any script: the Unicode spaces, line and paragraph
  separators, and the controls that separate lines, pages and records;
- `CodePoint.isAsciiBlank`: the space and the controls from tab to carriage return.
-/

namespace ShapeInference

namespace CodePoint

/-- White space among the ASCII characters that end or separate words. -/
def isAsciiBlank (c : CodePoint) : Bool :=
  (0x09 ≤ c.val && c.val ≤ 0x0D) || c.val = 0x20

/-- White space of any script. -/
def isBlank (c : CodePoint) : Bool :=
  c.isAsciiBlank || (0x1C ≤ c.val && c.val ≤ 0x1F) || c.val = 0x85 || c.val = 0xA0
    || c.val = 0x1680 || (0x2000 ≤ c.val && c.val ≤ 0x200A) || c.val = 0x2028 || c.val = 0x2029
    || c.val = 0x202F || c.val = 0x205F || c.val = 0x3000

end CodePoint

end ShapeInference
