import ShapeInference.Text.Pattern

/-!
# Tags

A tag says what kind of value a node has. A plain scalar without a tag gets one by its form.

- `Yaml.Tag`: the tags that have a meaning, and all others;
- `Yaml.Tag.ofText`, `Yaml.Tag.text`: a tag by its full name;
- `Yaml.Form`: the forms of plain scalars as patterns;
- `Yaml.Tag.ofPlain`: the tag of a plain scalar.
-/

namespace ShapeInference

namespace Yaml

/-- The kinds of values that nodes have. -/
inductive Tag where
  | null
  | bool
  | int
  | float
  | binary
  | timestamp
  | orderedMap
  | pairs
  | set
  | text
  | sequence
  | mapping
  /-- A key under which the entries of other mappings are taken over. -/
  | merge
  /-- A key that stands for the mapping it belongs to. -/
  | value
  /-- A mark of the notation itself. -/
  | mark
  | other (name : Text)
  deriving DecidableEq, Repr

namespace Tag

/-- What the names of the tags with a meaning begin with. -/
def beginning : Text := "tag:yaml.org,2002:"

/-- The tags with a meaning by the endings of their names. -/
def known : List (Text × Tag) :=
  [("null", null), ("bool", bool), ("int", int), ("float", float), ("binary", binary),
    ("timestamp", timestamp), ("omap", orderedMap), ("pairs", pairs), ("set", set), ("str", text),
    ("seq", sequence), ("map", mapping), ("merge", merge), ("value", value), ("yaml", mark)]

/-- The tag with a name. -/
def ofText (name : Text) : Tag :=
  match (Text.dropStart? beginning name).bind fun ending => known.find? (·.1 = ending) with
  | some (_, tag) => tag
  | none => other name

/-- The full name of a tag. -/
def name (tag : Tag) : Text :=
  match tag with
  | other name => name
  | _ => beginning ++ ((known.find? (·.2 = tag)).map (·.1)).getD []

end Tag

namespace Form

open Pattern

/-- Digits and underscores after a first digit. -/
def digits : Pattern := seq digit (star (anyOf "0123456789_"))

/-- A sign or none. -/
def sign : Pattern := optional (anyOf "+-")

/-- Parts of base sixty after a colon each, the next value being below sixty. -/
def sixtieths : Pattern :=
  plus (sequence [char ':', optional (anyOf "012345"), digit])

/-- An exponent with a sign, or none. -/
def exponent : Pattern :=
  optional (sequence [anyOf "eE", anyOf "+-", plus digit])

/-- Words for truth values. -/
def bool : Pattern :=
  words ["yes", "Yes", "YES", "no", "No", "NO", "true", "True", "TRUE", "false", "False", "FALSE",
    "on", "On", "ON", "off", "Off", "OFF"]

/-- Numbers with a point. -/
def float : Pattern :=
  choice [
    sequence [sign, digits, char '.', star (anyOf "0123456789_"), exponent],
    sequence [char '.', digits, exponent],
    sequence [sign, digits, sixtieths, char '.', star (anyOf "0123456789_")],
    sequence [sign, char '.', words ["inf", "Inf", "INF"]],
    sequence [char '.', words ["nan", "NaN", "NAN"]]]

/-- Integers of base two, eight, ten, sixteen and sixty. -/
def int : Pattern :=
  seq sign
    (choice [
      seq (exactly "0b") (plus (anyOf "01_")),
      seq (char '0') (plus (anyOf "01234567_")),
      char '0',
      seq (anyOf "123456789") (star (anyOf "0123456789_")),
      seq (exactly "0x") (plus (anyOf "0123456789abcdefABCDEF_")),
      sequence [anyOf "123456789", star (anyOf "0123456789_"), sixtieths]])

/-- One or two digits. -/
def oneOrTwo : Pattern := seq digit (optional digit)

/-- Two digits. -/
def two : Pattern := seq digit digit

/-- Four digits. -/
def four : Pattern := seq two two

/-- Spaces and tabs. -/
def blanks : Pattern := star (anyOf " \t")

/-- A letter or blanks between a date and a time. -/
def between : Pattern := alt (anyOf "Tt") (plus (anyOf " \t"))

/-- A zone: a letter, or hours and minutes with a sign. -/
def zone : Pattern :=
  alt (char 'Z') (sequence [anyOf "+-", oneOrTwo, optional (seq (char ':') two)])

/-- A time of day with a fraction and a zone, which may be left out. -/
def time : Pattern :=
  sequence [oneOrTwo, char ':', two, char ':', two, optional (seq (char '.') (star digit)),
    optional (seq blanks zone)]

/-- Dates, and dates with a time. -/
def timestamp : Pattern :=
  alt (sequence [four, char '-', two, char '-', two])
    (sequence [four, char '-', oneOrTwo, char '-', oneOrTwo, between, time])

/-- The forms of plain scalars with their tags. -/
def tagged : List (Pattern × Tag) :=
  [(bool, .bool), (float, .float), (int, .int), (exactly "<<", .merge),
    (words ["~", "null", "Null", "NULL", ""], .null), (timestamp, .timestamp),
    (exactly "=", .value), (anyOf "!&*", .mark)]

/-- Whether a text has a form, where a line feed after it does not count. -/
def fits (p : Pattern) (t : Text) : Bool :=
  p.accepts t
    || (1 < t.length && t.getLast? = some ('\n' : CodePoint) && p.accepts t.dropLast)

end Form

/-- The tag of a plain scalar: that of its form, and that of texts if it has none of the forms. -/
def Tag.ofPlain (t : Text) : Tag :=
  ((Form.tagged.find? fun form => Form.fits form.1 t).map (·.2)).getD .text

end Yaml

end ShapeInference
