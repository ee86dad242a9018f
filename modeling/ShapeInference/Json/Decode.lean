import ShapeInference.Json.Number

/-!
# Reading JSON documents (`json.loads`)

Every reader takes the text from where it stands and gives what it has read with the rest of the
text.

- `Json.readLiteral`: a string literal after its opening quote; two escapes that spell the halves of
  a surrogate pair are one code point;
- `Json.readValue`, `Json.readElements`, `Json.readMembers`: values and the contents of arrays and
  objects, where a bound on the depth and length of the document makes the recursion structural;
- `Json.readDocument`: a whole document;
- `Json.decode`: the value of a document that is given as a text, or its first flaw.
-/

namespace ShapeInference

namespace Json

/-- The space and the controls that may stand between the parts of a document. -/
def isSpace (c : CodePoint) : Bool :=
  c = ' ' || c = '\t' || c = '\n' || c = '\r'

/-- The text without the blanks at its beginning. -/
def skipSpaces (t : Text) : Text :=
  t.dropWhile isSpace

/-- The code point that a letter after a backslash stands for. -/
def unescape? (c : CodePoint) : Option CodePoint :=
  if c = '"' || c = '\\' || c = '/' then some c
  else if c = 'b' then some (.ofNat 0x08)
  else if c = 'f' then some (.ofNat 0x0C)
  else if c = 'n' then some '\n'
  else if c = 'r' then some '\r'
  else if c = 't' then some '\t'
  else none

/-- A text after the code point that came before it, if one was held back. -/
def release (held : Option CodePoint) (t : Text × Text) : Text × Text :=
  (held.toList ++ t.1, t.2)

/-- The rest of a string literal that began with `opening`. An escape that spells the first half of
a surrogate pair is held back until the next code point is known. -/
def readLiteralAfter (opening : Text) : Option CodePoint → Text → Except Flaw (Text × Text)
  | _, [] => .error (.malformed .openLiteral opening)
  | held, c :: rest =>
    if c = '"' then .ok (held.toList, rest)
    else if c = '\\' then
      match rest with
      | [] => .error (.malformed .openLiteral opening)
      | e :: after =>
        if e = 'u' then
          match after with
          | a :: b :: c :: d :: next =>
            match Text.hexValue? [a, b, c, d], next with
            | some n, _ :: _ =>
              let unit := CodePoint.ofNat n
              match held with
              | some high =>
                -- only the second half right after the first completes a pair
                if unit.isLowSurrogate then
                  (readLiteralAfter opening none next).map
                    (release (some (CodePoint.joinSurrogates high unit)))
                else if unit.isHighSurrogate then
                  (readLiteralAfter opening (some unit) next).map (release held)
                else
                  (readLiteralAfter opening none next).map
                    fun t => release held (release (some unit) t)
              | none =>
                if unit.isHighSurrogate then readLiteralAfter opening (some unit) next
                else (readLiteralAfter opening none next).map (release (some unit))
            | _, _ => .error (.malformed .unicodeEscape rest)
          | _ => .error (.malformed .unicodeEscape rest)
        else
          match unescape? e with
          | none => .error (.malformed .escape (c :: rest))
          | some x =>
            (readLiteralAfter opening none after).map
              fun t => release held (release (some x) t)
    else if c.val < 0x20 then .error (.malformed .controlCharacter (c :: rest))
    else
      (readLiteralAfter opening none rest).map fun t => release held (release (some c) t)

/-- A string literal after its opening quote. -/
def readLiteral (t : Text) : Except Flaw (Text × Text) :=
  readLiteralAfter ('"' :: t) none t

/-- The words that stand for values. -/
def words : List (Text × Value) :=
  [("null", .null), ("true", .bool true), ("false", .bool false)]

/-- The words that name numbers which are not finite. -/
def constants : List Text :=
  ["NaN", "Infinity", "-Infinity"]

/-- A word or a number at the beginning of a text. -/
def readScalar (t : Text) : Except Flaw (Value × Text) :=
  match words.findSome? fun word => (Text.dropStart? word.1 t).map (word.2, ·) with
  | some found => .ok found
  | none =>
    match constants.find? fun name => (Text.dropStart? name t).isSome with
    | some name => .error (.constant name)
    | none =>
      match readNumber? t with
      | some (number, rest) => number.value.map (·, rest)
      | none => .error (.malformed .value t)

/-- What follows a code point that has to come next. -/
def expect (c : CodePoint) (reason : Reason) (t : Text) : Except Flaw Text :=
  match t with
  | [] => .error (.malformed reason t)
  | d :: rest => if d = c then .ok rest else .error (.malformed reason t)

/-- An object with members in order; a repeated name keeps its first place and its last value. -/
def objectOf (members : List (Text × Value)) : Value :=
  .dictionary ((Entries.collapse (· = ·) members).map fun m => (.text m.1, m.2))

mutual

/-- The value at the beginning of a text. -/
def readValue : Nat → Text → Except Flaw (Value × Text)
  | 0, t => .error (.malformed .value t)
  | _, [] => .error (.malformed .value [])
  | fuel + 1, c :: rest =>
    if c = '"' then (readLiteral rest).map fun (t, rest) => (.text t, rest)
    else if c = '[' then
      let inside := skipSpaces rest
      if inside.head? = some (']' : CodePoint) then .ok (.list [], inside.tail)
      else (readElements fuel inside).map fun (items, rest) => (.list items, rest)
    else if c = '{' then
      let inside := skipSpaces rest
      if inside.head? = some ('}' : CodePoint) then .ok (.dictionary [], inside.tail)
      else (readMembers fuel inside).map fun (members, rest) => (objectOf members, rest)
    else readScalar (c :: rest)

/-- The elements of an array from its first or next one on, through the closing bracket. -/
def readElements : Nat → Text → Except Flaw (List Value × Text)
  | 0, t => .error (.malformed .value t)
  | fuel + 1, t => do
    let (value, rest) ← readValue fuel t
    let rest := skipSpaces rest
    if rest.head? = some (']' : CodePoint) then return ([value], rest.tail)
    else
      let rest ← expect ',' .comma rest
      let (items, rest) ← readElements fuel (skipSpaces rest)
      return (value :: items, rest)

/-- The members of an object from its first or next one on, through the closing brace. -/
def readMembers : Nat → Text → Except Flaw (List (Text × Value) × Text)
  | 0, t => .error (.malformed .name t)
  | fuel + 1, t => do
    let (name, rest) ← readLiteral (← expect '"' .name t)
    let rest ← expect ':' .colon (skipSpaces rest)
    let (value, rest) ← readValue fuel (skipSpaces rest)
    let rest := skipSpaces rest
    if rest.head? = some ('}' : CodePoint) then return ([(name, value)], rest.tail)
    else
      let rest ← expect ',' .comma rest
      let (members, rest) ← readMembers fuel (skipSpaces rest)
      return ((name, value) :: members, rest)

end

/-- The value of a whole document: blanks around one value and nothing else. -/
def readDocument (t : Text) : Except Flaw Value := do
  let (value, rest) ← readValue (2 * t.length + 2) (skipSpaces t)
  match skipSpaces rest with
  | [] => return value
  | rest => throw (.malformed .extraData rest)

/-- The value of a document that is given as a text. A byte order mark has no place there. -/
def decode (t : Text) : Except Flaw Value :=
  if t.head?.any (·.val = 0xFEFF) then .error (.malformed .byteOrderMark t) else readDocument t

end Json

end ShapeInference
