import ShapeInference.CommandLine.Help
import ShapeInference.Files
import ShapeInference.Text.Quoted
import ShapeInference.Text.Similarity

/-!
# Usage errors

- `UsageError`: what is wrong with the arguments of the command;
- `UsageError.message`: the wording;
- `UsageError.report`: the wording after a reminder of how the command is called.
-/

namespace ShapeInference

namespace CommandLine

/-- What is wrong with the arguments of the command. -/
inductive UsageError where
  /-- No option is written like this. -/
  | unknownOption (written : Text)
  /-- No option is written with this letter after a single hyphen. -/
  | unknownLetter (written : Text)
  /-- An option stands at the end without its argument. -/
  | argumentMissing (p : Parameter)
  /-- An option that takes no argument is given one. -/
  | argumentGiven (p : Parameter)
  /-- These arguments belong to no option. -/
  | extraArguments (ts : List Text)
  /-- The file to read cannot be read. -/
  | unreadableInput (path : Text) (problem : PathProblem)
  /-- No strategy has this name. -/
  | unknownStrategy (t : Text)
  /-- The indent is no numeral. -/
  | indentNotNumeral (t : Text)
  /-- The indent is negative. -/
  | negativeIndent (n : Int)
  /-- There is no file for the configuration. -/
  | configMissing (path : Text)
  /-- The path for the configuration is that of a directory. -/
  | configIsDirectory (path : Text)
  deriving DecidableEq, Repr

namespace UsageError

/-- The advice to use another option. -/
def advice : List Text → Text
  | [] => []
  | [flag] => (" Did you mean " : Text) ++ flag ++ ("?" : Text)
  | flags => (" (Possible options: " : Text) ++ Text.join ", " flags ++ (")" : Text)

/-- The largest number of options to advise. -/
def mostAdvised : Nat := 3

/-- The wording for the argument of an option. -/
def invalid (p : Parameter) (reason : Text) : Text :=
  ("Invalid value for '" : Text) ++ p.flag ++ ("': " : Text) ++ reason

/-- The wording of an error. -/
def message : UsageError → Text
  | unknownOption written =>
    ("No such option: " : Text) ++ written
      ++ advice (Text.closest mostAdvised written (Parameter.every.map Parameter.flag))
  | unknownLetter written => ("No such option: " : Text) ++ written
  | argumentMissing p => ("Option " : Text) ++ p.flag.quoted ++ (" requires an argument." : Text)
  | argumentGiven p => ("Option " : Text) ++ p.flag.quoted ++ (" does not take a value." : Text)
  | extraArguments ts =>
    ("Got unexpected extra argument" : Text) ++ (if ts.length = 1 then [] else ("s" : Text))
      ++ (" (" : Text) ++ Text.join " " ts ++ (")" : Text)
  | unreadableInput path problem =>
    invalid .inputFile
      (("'" : Text) ++ Naming.shown path ++ ("': " : Text) ++ problem.message)
  | unknownStrategy t =>
    invalid .strategy
      (t.quoted ++ (" is not one of " : Text)
        ++ Text.join ", " (Strategy.every.map fun s => s.name.quoted) ++ ("." : Text))
  | indentNotNumeral t => invalid .indent (t.quoted ++ (" is not a valid integer range." : Text))
  | negativeIndent n => invalid .indent (Text.ofInt n ++ (" is not in the range x>=0." : Text))
  | configMissing path =>
    invalid .config
      (("File " : Text) ++ (Naming.shown path).quoted ++ (" does not exist." : Text))
  | configIsDirectory path =>
    invalid .config
      (("File " : Text) ++ (Naming.shown path).quoted ++ (" is a directory." : Text))

/-- Whether an error comes with a reminder of how the command is called. One about whether an option
takes an argument does not. -/
def remindsOfUsage : UsageError → Bool
  | argumentMissing _ => false
  | argumentGiven _ => false
  | _ => true

/-- The reminder of how the command is called. -/
def reminder : Text :=
  usage ++ ("Try '" : Text) ++ commandName ++ (" --help' for help.\n\n" : Text)

/-- What is shown for an error. -/
def report (e : UsageError) : Text :=
  (if e.remindsOfUsage then reminder else []) ++ ("Error: " : Text) ++ e.message ++ ("\n" : Text)

end UsageError

end CommandLine

end ShapeInference
