import ShapeInference.CommandLine.UsageError

/-!
# Arguments

The arguments of the command are options, with an argument of their own after an equals sign or
following, and what belongs to no option. After two hyphens there are no more options.

- `Arguments`: arguments by option;
- `Arguments.ofTexts`: the arguments in a list of texts;
- `Arguments.get?`: the argument of an option, where the last one counts.
-/

namespace ShapeInference

namespace CommandLine

/-- The options in the order in which they are given, each with its argument or an empty text, and
the texts that belong to none. -/
structure Arguments where
  given : List (Parameter × Text)
  extra : List Text
  deriving DecidableEq, Repr

namespace Arguments

/-- No arguments. -/
def empty : Arguments := ⟨[], []⟩

/-- The arguments after an option before them. -/
def addOption (p : Parameter) (t : Text) (a : Arguments) : Arguments :=
  { a with given := (p, t) :: a.given }

/-- The arguments after a text before them that belongs to no option. -/
def addExtra (t : Text) (a : Arguments) : Arguments :=
  { a with extra := t :: a.extra }

/-- Whether a text is written like an option. -/
def isOption (t : Text) : Bool :=
  t.head? = some ('-' : CodePoint) && 1 < t.length

/-- The text before the first equals sign, and the text after it if there is one. -/
def splitAttached (t : Text) : Text × Option Text :=
  (t.takeWhile (· ≠ ('=' : CodePoint)), (t.dropWhile (· ≠ ('=' : CodePoint))).tail?)

/-- The error for what is written like an option but is none. -/
def unknown (t : Text) : UsageError :=
  if t.take 2 = ("--" : Text) then .unknownOption (splitAttached t).1
  else .unknownLetter (t.take 2)

/-- The arguments in a list of texts. -/
def ofTexts : List Text → Except UsageError Arguments
  | [] => .ok empty
  | t :: rest =>
    if t = ("--" : Text) then .ok ⟨[], rest⟩
    else if isOption t then
      match Parameter.ofFlag? (splitAttached t).1, (splitAttached t).2 with
      | none, _ => .error (unknown t)
      | some p, some attached =>
        if p.takesArgument then (ofTexts rest).map (addOption p attached)
        else .error (.argumentGiven p)
      | some p, none =>
        if p.takesArgument then
          match rest with
          | [] => .error (.argumentMissing p)
          | following :: rest => (ofTexts rest).map (addOption p following)
        else (ofTexts rest).map (addOption p [])
    else (ofTexts rest).map (addExtra t)

/-- The argument of an option, if it is given; the last one counts. -/
def get? (a : Arguments) (p : Parameter) : Option Text :=
  Entries.last? (· = ·) p a.given

/-- Whether an option is given. -/
def has (a : Arguments) (p : Parameter) : Bool :=
  (a.get? p).isSome

/-- All options in the order in which they are looked at: those given by their first place, then the
others as they are listed. -/
def order (a : Arguments) : List Parameter :=
  (a.given.map (·.1) ++ Parameter.every).eraseDups

end Arguments

end CommandLine

end ShapeInference
