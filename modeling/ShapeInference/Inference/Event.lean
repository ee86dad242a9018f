import ShapeInference.Failure

/-!
# Events

Inference reports what it meets. A run that reports is its events in order and its outcome; the
events stay when the run fails. What `classify`, `load_json` and `infer` log are these events.

- `Event`: what can be reported;
- `Logged`: a run with its events;
- `Logged.report`: a run that reports one event;
- `Logged.fail`: a run that fails.
-/

namespace ShapeInference

/-- What inference reports. -/
inductive Event where
  /-- An array without elements was met at a path, so that its elements stay unknown. -/
  | emptyArray (path : Text)
  /-- A shape was inferred with a strategy. -/
  | inferred (strategy : Strategy)
  /-- The input is no well-formed document. -/
  | invalidInput (reason : Text) (place : Option Place)
  deriving DecidableEq, Repr

/-- A run: the events it reports, in order, and what it ends with. -/
structure Logged (α : Type) where
  events : List Event
  outcome : Except Failure α

namespace Logged

variable {α β : Type}

/-- A run that ends with a value. -/
def done (a : α) : Logged α :=
  ⟨[], .ok a⟩

/-- A run that fails. -/
def fail (f : Failure) : Logged α :=
  ⟨[], .error f⟩

/-- A run that reports one event. -/
def report (e : Event) : Logged Unit :=
  ⟨[e], .ok ()⟩

/-- A run that reports nothing. -/
def ofExcept (r : Except Failure α) : Logged α :=
  ⟨[], r⟩

/-- A run that goes on with the value of another one, unless that one fails. -/
def andThen (run : Logged α) (next : α → Logged β) : Logged β :=
  match run.outcome with
  | .ok a => ⟨run.events ++ (next a).events, (next a).outcome⟩
  | .error f => ⟨run.events, .error f⟩

instance : Monad Logged where
  pure := done
  bind := andThen

end Logged

end ShapeInference
