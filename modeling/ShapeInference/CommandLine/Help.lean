import ShapeInference.CommandLine.Parameter

/-!
# Help

- `CommandLine.usage`: how the command is called;
- `CommandLine.help`: what the command and its options are for, in two columns.
-/

namespace ShapeInference

namespace CommandLine

/-- The name of the command. -/
def commandName : Text := "typeshape"

/-- How the command is called. -/
def usage : Text :=
  ("Usage: " : Text) ++ commandName ++ (" [OPTIONS]\n" : Text)

namespace Help

/-- The width of a line. -/
def lineWidth : Nat := 80

/-- The width of the margin before the first column. -/
def margin : Nat := 2

/-- The width of the first column. -/
def columnWidth : Nat := 30

/-- The width of the space between the columns. -/
def gap : Nat := 2

/-- The lines of words after a line begun, each as full as the width allows. -/
def fill (width : Nat) (line : Text) : List Text → List Text
  | [] => [line]
  | word :: rest =>
    if line.isEmpty then fill width word rest
    else if line.length + 1 + word.length ≤ width then
      fill width (line ++ (" " : Text) ++ word) rest
    else line :: fill width word rest

/-- The lines of a text that is broken at its spaces. -/
def wrap (width : Nat) (t : Text) : List Text :=
  fill width [] (t.splitOn ' ')

/-- An option as the first column shows it. -/
def label (p : Parameter) : Text :=
  p.flag ++ p.argument?.elim [] ((" " : Text) ++ ·)

/-- The lines about an option. One that is too long for the first column has a line of its own. -/
def entry (p : Parameter) : List Text :=
  let label := label p
  let indent := margin + columnWidth + gap
  let texts := wrap (lineWidth - indent) p.purpose
  let first := Text.spaces margin ++ label
  if label.length ≤ columnWidth then
    (first ++ Text.spaces (indent - first.length) ++ texts.headD [])
      :: texts.tail.map (Text.spaces indent ++ ·)
  else first :: texts.map (Text.spaces indent ++ ·)

end Help

/-- What the command and its options are for. -/
def help : Text :=
  usage ++ ("\n  Infer a type declaration from a JSON document.\n\nOptions:\n" : Text)
    ++ (Parameter.every.flatMap Help.entry).flatMap (· ++ ("\n" : Text))

end CommandLine

end ShapeInference
