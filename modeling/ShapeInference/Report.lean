import ShapeInference.Request

/-!
# Errors made by callers (`TypeshapeError` and its classes)

Callers may make the library's errors themselves, out of arguments of any class.

- `ErrorClass`: the classes of errors, and `ErrorClass.families`, the wider classes they belong to;
- `Report`: an error that was made: its message and its fields;
- `ErrorClass.report`: the error of a class with arguments.
-/

namespace ShapeInference

/-- The library's classes of errors. -/
inductive ErrorClass where
  /-- Any error of the library. -/
  | library
  | invalidInput
  | unsupported
  | unvalidatedStrategy
  deriving DecidableEq, Repr

/-- The wider classes that errors belong to. -/
inductive ErrorFamily where
  | library
  | value
  | type
  | assertion
  deriving DecidableEq, Repr

/-- An error that was made: its message and its fields by name. -/
structure Report where
  message : Text
  fields : List (Text × Value)

namespace ErrorClass

/-- The name of a class. -/
def name : ErrorClass → Text
  | library => "TypeshapeError"
  | invalidInput => "InvalidInputError"
  | unsupported => "UnsupportedValueKind"
  | unvalidatedStrategy => "InvariantViolation"

/-- The wider classes that the errors of a class belong to. -/
def families : ErrorClass → List ErrorFamily
  | library => [.library]
  | invalidInput => [.library, .value]
  | unsupported => [.library, .type]
  | unvalidatedStrategy => [.library, .assertion]

/-- The place in a message about invalid input: there is none without a line. -/
def placeText (line column : Value) : Except Failure Text :=
  match line with
  | .null => .ok []
  | _ => do
    return (" (line " : Text) ++ (← line.spelled) ++ (", column " : Text) ++ (← column.spelled)
      ++ (")" : Text)

/-- An error about invalid input (`InvalidInputError.__init__`). -/
def reportInvalid (reason line column : Value) : Except Failure Report := do
  let place ← placeText line column
  return ⟨("Invalid JSON input" : Text) ++ place ++ (": " : Text) ++ (← reason.spelled),
    [("reason", reason), ("line", line), ("column", column)]⟩

/-- An error about a value that cannot be classified (`UnsupportedValueKind.__init__`). -/
def reportUnsupported (kind snapshot path : Value) : Except Failure Report := do
  let kindText ← kind.spelled
  let pathText ← path.spelled
  return ⟨("Unrecognised value of type " : Text) ++ kindText ++ (" at " : Text) ++ pathText
      ++ (": " : Text) ++ (← snapshot.spelled),
    [("kind", kind), ("snapshot", snapshot), ("path", path)]⟩

/-- An error without fields: no argument is no message, one is spelled, several are a tuple. -/
def reportPlain (args : List Value) : Except Failure Report :=
  (Value.exception library.name none args).spelled.map (⟨·, []⟩)

/-- The error of a class with arguments. -/
def report (c : ErrorClass) (args : List Value) : Except Failure Report :=
  match c, args with
  | library, _ => reportPlain args
  | unvalidatedStrategy, _ => reportPlain args
  | invalidInput, [] => .error (.missingArguments c.name ["message"])
  | invalidInput, [reason] => reportInvalid reason .null .null
  | invalidInput, [reason, line] => reportInvalid reason line .null
  | invalidInput, [reason, line, column] => reportInvalid reason line column
  | invalidInput, _ => .error (.excessArguments c.name 1 3 args.length)
  | unsupported, [] => .error (.missingArguments c.name ["kind", "snapshot"])
  | unsupported, [_] => .error (.missingArguments c.name ["snapshot"])
  | unsupported, [kind, snapshot] => reportUnsupported kind snapshot (.text "$")
  | unsupported, [kind, snapshot, path] => reportUnsupported kind snapshot path
  | unsupported, _ => .error (.excessArguments c.name 2 3 args.length)

end ErrorClass

end ShapeInference
