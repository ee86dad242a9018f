import ShapeInference.Text.Basic

/-!
# Identifiers (`is_identifier`, `is_type_name`)

- `Text.isIdentifier`: a name that stands bare as a property name: an ASCII letter or underscore,
  then letters, digits and underscores;
- `Text.isTypeName`: an identifier that is no reserved word and so can name a declaration.
-/

namespace ShapeInference

/-- What an identifier may begin with. -/
def CodePoint.startsIdentifier (c : CodePoint) : Bool :=
  c.isLetter || c = '_'

/-- What an identifier may go on with. -/
def CodePoint.continuesIdentifier (c : CodePoint) : Bool :=
  c.startsIdentifier || c.isDigit

namespace Text

/-- Whether a text is an identifier (`is_identifier`). -/
def isIdentifier : Text → Bool
  | [] => false
  | c :: rest => c.startsIdentifier && rest.all CodePoint.continuesIdentifier

/-- The words of the declaration language that cannot name a type. -/
def reservedWords : List Text :=
  List.map ofString ["any", "bigint", "boolean", "break", "case", "catch", "class", "const",
    "continue", "debugger", "default", "delete", "do", "else", "enum",
    "export", "extends", "false", "finally", "for", "function", "if",
    "implements", "import", "in", "instanceof", "interface", "let", "never",
    "new", "null", "number", "object", "package", "private", "protected",
    "public", "return", "static", "string", "super", "switch", "symbol",
    "this", "throw", "true", "try", "type", "typeof", "undefined", "unknown",
    "var", "void", "while", "with", "yield"]

/-- Whether a text can name a declared type (`is_type_name`). -/
def isTypeName (t : Text) : Bool :=
  t.isIdentifier && !reservedWords.contains t

end Text

end ShapeInference
