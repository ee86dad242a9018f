import ShapeInference.CommandLine.UsageError
import ShapeInference.Settings.File

/-!
# Why a run stops

- `Stop`: why a run ends without a declaration;
- `Stop.isReported`: whether a user is told the reason;
- `Stop.report`: what is shown;
- `Stop.status`: the exit status.
-/

namespace ShapeInference

namespace CommandLine

/-- Why a run ends without a declaration. -/
inductive Stop where
  /-- The arguments are wrong. -/
  | usage (e : UsageError)
  /-- What is given as a path is none. -/
  | noPath (flaw : PathFlaw)
  /-- The configuration cannot be used. -/
  | configuration (f : ConfigFailure)
  /-- The settings are wrong. -/
  | settings (f : Failure)
  /-- No shape can be inferred. -/
  | document (f : Failure)
  /-- The shape cannot be written. -/
  | declaration (f : Failure)
  /-- There is nothing to write to at a path. -/
  | output (path : Text) (problem : PathProblem)

namespace Stop

/-- Whether a user is told the reason, as opposed to a failure that the command does not expect. -/
def isReported : Stop → Bool
  | usage _ => true
  | noPath _ => false
  | configuration f => f.isReported
  | settings f => f.isValueError
  | document f => f.isLibrary
  | declaration _ => false
  | output _ _ => true

/-- The beginning of the wording for a configuration or settings. -/
def configurationPart : Text := "Invalid configuration: "

/-- The reason that a user is told. -/
def reason : Stop → Text
  | usage e => e.message
  | noPath flaw => flaw.message
  | configuration f => configurationPart ++ f.message
  | settings f => configurationPart ++ f.message
  | document f => f.message
  | declaration f => f.message
  | output path problem =>
    ("Could not open file " : Text) ++ (Naming.shown path).quoted ++ (": " : Text)
      ++ problem.message

/-- What is shown to a user. -/
def report (s : Stop) : Text :=
  match s with
  | usage e => e.report
  | _ => if s.isReported then ("Error: " : Text) ++ s.reason ++ ("\n" : Text) else []

/-- The exit status. -/
def status : Stop → Nat
  | usage _ => 2
  | _ => 1

end Stop

end CommandLine

end ShapeInference
