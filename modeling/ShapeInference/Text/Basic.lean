/-!
# Text

Documents, names and messages are lists of code points. Surrogates count as code points of their
own, because an escape in a document can spell half of a surrogate pair.

- `CodePoint`: a number below `0x110000`;
- `Text`: a list of code points, ordered code point by code point;
- `Text.ofString`: what a string literal stands for;
- `Text.ofNat`, `Text.ofInt`: decimal numerals;
- `Text.hex`: a fixed number of hexadecimal digits;
- `Text.splitOn`: the pieces between separators.
-/

namespace ShapeInference

/-- A Unicode code point, surrogates included. -/
abbrev CodePoint := Fin 0x110000

/-- A sequence of code points. -/
abbrev Text := List CodePoint

namespace CodePoint

/-- The code point of a character. -/
def ofChar (c : Char) : CodePoint :=
  ⟨c.toNat, by
    have h := c.valid
    simp only [UInt32.isValidChar, Nat.isValidChar] at h
    show c.val.toNat < 0x110000
    omega⟩

instance : Coe Char CodePoint := ⟨ofChar⟩

/-- The code point with a number, or the replacement character when the number is too large. -/
def ofNat (n : Nat) : CodePoint :=
  if h : n < 0x110000 then ⟨n, h⟩ else 0xFFFD

/-- The first half of a surrogate pair. -/
def isHighSurrogate (c : CodePoint) : Bool :=
  0xD800 ≤ c.val && c.val ≤ 0xDBFF

/-- The second half of a surrogate pair. -/
def isLowSurrogate (c : CodePoint) : Bool :=
  0xDC00 ≤ c.val && c.val ≤ 0xDFFF

/-- Either half of a surrogate pair. -/
def isSurrogate (c : CodePoint) : Bool :=
  0xD800 ≤ c.val && c.val ≤ 0xDFFF

/-- The code point beyond `0xFFFF` that a surrogate pair stands for. -/
def joinSurrogates (high low : CodePoint) : CodePoint :=
  ofNat (0x10000 + (high.val - 0xD800) * 0x400 + (low.val - 0xDC00))

/-- An ASCII decimal digit. -/
def isDigit (c : CodePoint) : Bool :=
  0x30 ≤ c.val && c.val ≤ 0x39

/-- An ASCII letter. -/
def isLetter (c : CodePoint) : Bool :=
  (0x41 ≤ c.val && c.val ≤ 0x5A) || (0x61 ≤ c.val && c.val ≤ 0x7A)

/-- The value of a hexadecimal digit in either case. -/
def hexValue? (c : CodePoint) : Option Nat :=
  if c.isDigit then some (c.val - 0x30)
  else if 0x41 ≤ c.val && c.val ≤ 0x46 then some (c.val - 0x41 + 10)
  else if 0x61 ≤ c.val && c.val ≤ 0x66 then some (c.val - 0x61 + 10)
  else none

/-- The digit of a value below sixteen, in lower case. -/
def ofDigit (d : Nat) : CodePoint :=
  ofNat (if d < 10 then 0x30 + d else 0x61 + (d - 10))

/-- The lower-case form of an ASCII letter; other code points stay. -/
def toLower (c : CodePoint) : CodePoint :=
  if 0x41 ≤ c.val && c.val ≤ 0x5A then ofNat (c.val + 0x20) else c

/-- The character of a code point; a surrogate becomes the replacement character. -/
def toChar (c : CodePoint) : Char :=
  if c.isSurrogate then Char.ofNat 0xFFFD else Char.ofNat c.val

end CodePoint

namespace Text

/-- The code points of a string. -/
def ofString (s : String) : Text :=
  s.toList.map CodePoint.ofChar

instance : Coe String Text := ⟨ofString⟩

/-- The string of a text; surrogates become replacement characters. -/
def toString (t : Text) : String :=
  String.ofList (t.map CodePoint.toChar)

/-- The decimal digits of a number, least significant first, with `fuel` bounding their count. -/
def reverseDigits : Nat → Nat → Text
  | 0, _ => []
  | fuel + 1, n =>
    if n < 10 then [CodePoint.ofDigit n]
    else CodePoint.ofDigit (n % 10) :: reverseDigits fuel (n / 10)

/-- The decimal numeral of a natural number. -/
def ofNat (n : Nat) : Text :=
  (reverseDigits (n.log2 + 1) n).reverse

/-- The decimal numeral of an integer, with a leading hyphen when it is negative. -/
def ofInt : Int → Text
  | .ofNat n => ofNat n
  | .negSucc n => '-' :: ofNat (n + 1)

/-- The last `width` hexadecimal digits of a number, in lower case. -/
def hex : Nat → Nat → Text
  | 0, _ => []
  | width + 1, n => hex width (n / 16) ++ [CodePoint.ofDigit (n % 16)]

/-- The number that decimal digits write, most significant first. -/
def digitsValue (t : Text) : Nat :=
  t.foldl (fun n c => n * 10 + (c.val - 0x30)) 0

/-- The number that hexadecimal digits write, or nothing if another code point is among them. -/
def hexValue? (t : Text) : Option Nat :=
  t.foldlM (fun n c => c.hexValue?.map (n * 16 + ·)) 0

/-- A number of spaces. -/
def spaces (n : Nat) : Text :=
  List.replicate n ' '

/-- The pieces between the separators; there is always one more than separators. -/
def splitOn (separator : CodePoint) : Text → List Text
  | [] => [[]]
  | c :: rest =>
    match splitOn separator rest with
    | [] => [[]]
    | piece :: pieces =>
      if c = separator then [] :: piece :: pieces else (c :: piece) :: pieces

/-- The texts one after the other with a separator between neighbours. -/
def join (separator : Text) : List Text → Text
  | [] => []
  | [t] => t
  | t :: rest => t ++ separator ++ join separator rest

/-- What is left after a beginning, if the text begins with it. -/
def dropStart? : Text → Text → Option Text
  | [], t => some t
  | _ :: _, [] => none
  | b :: start, c :: t => if b = c then dropStart? start t else none

/-- Whether all code points are ASCII. -/
def isAscii (t : Text) : Bool :=
  t.all (·.val < 0x80)

/-- The text with line ends folded, where `skip` says that a line feed now would belong to the line
end just written. -/
def foldLineEndsAfter : Bool → Text → Text
  | _, [] => []
  | skip, c :: rest =>
    if c = '\r' then '\n' :: foldLineEndsAfter true rest
    else if skip && c = '\n' then foldLineEndsAfter false rest
    else c :: foldLineEndsAfter false rest

/-- One line feed for every line end: a carriage return, a line feed, or one after the other. -/
def foldLineEnds (t : Text) : Text :=
  foldLineEndsAfter false t

end Text

end ShapeInference
