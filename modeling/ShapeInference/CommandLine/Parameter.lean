import ShapeInference.Sampling

/-!
# Options

The options of the command (`cli`).

- `Parameter`: the options;
- `Parameter.flag`: how an option is written;
- `Parameter.argument?`: the name of the argument of an option that takes one;
- `Parameter.purpose`: what an option is for.
-/

namespace ShapeInference

namespace CommandLine

/-- An option of the command. -/
inductive Parameter where
  | inputFile
  | outputFile
  | name
  | strategy
  | indent
  | compact
  | config
  | verbose
  | help
  deriving DecidableEq, Repr

namespace Parameter

/-- All options, in the order in which they are listed. -/
def every : List Parameter :=
  [inputFile, outputFile, name, strategy, indent, compact, config, verbose, help]

/-- How an option is written. -/
def flag : Parameter → Text
  | inputFile => "--input-file"
  | outputFile => "--output-file"
  | name => "--name"
  | strategy => "--strategy"
  | indent => "--indent"
  | compact => "--compact"
  | config => "--config"
  | verbose => "--verbose"
  | help => "--help"

/-- The option that is written in a way. -/
def ofFlag? (t : Text) : Option Parameter :=
  every.find? (·.flag = t)

/-- The name of the argument of an option that takes one. -/
def argument? : Parameter → Option Text
  | inputFile => some "FILENAME"
  | outputFile => some "FILENAME"
  | name => some "TEXT"
  | strategy =>
    some (("[" : Text) ++ Text.join "|" (Strategy.every.map Strategy.name) ++ ("]" : Text))
  | indent => some "INTEGER RANGE"
  | compact => none
  | config => some "FILE"
  | verbose => none
  | help => none

/-- Whether an option takes an argument. -/
def takesArgument (p : Parameter) : Bool :=
  p.argument?.isSome

/-- What an option is for. -/
def purpose : Parameter → Text
  | inputFile => "Path to a JSON file to read (reads from stdin by default)."
  | outputFile => "Path to a file to write the declaration to (writes to stdout by default)."
  | name => "Name of the declared type."
  | strategy => "Which array elements to sample."
  | indent => "Spaces per nesting level in object literals. [x>=0]"
  | compact => "Render object literals on a single line."
  | config => "Path to a YAML configuration file."
  | verbose => "Enable debug logging."
  | help => "Show this message and exit."

end Parameter

end CommandLine

end ShapeInference
