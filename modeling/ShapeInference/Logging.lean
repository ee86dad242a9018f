import ShapeInference.Inference.Event
import ShapeInference.Request
import ShapeInference.Value.Snapshot

/-!
# Logging (`configure_logging`, `get_logger`)

Events reach a reader through handlers of the root logger, from a level on. Configuring it installs
one handler, however often that is done, and sets the level anew each time.

- `Event.level`, `Event.name`, `Event.source`, `Event.details`: what a reader learns of an event;
- `Event.line`: how a reader learns it;
- `Logging`: the number of handlers installed and the level;
- `Logging.levelOf`: the level that a value is or names;
- `Logging.configure`: the state after configuring it;
- `Logging.shows`: whether an event reaches the reader.
-/

namespace ShapeInference

/-- How much an event matters. -/
inductive EventLevel where
  | debug
  | warning
  | error
  deriving DecidableEq, Repr

namespace EventLevel

/-- The name of a level. -/
def name : EventLevel → Text
  | debug => "debug"
  | warning => "warning"
  | error => "error"

/-- The number of a level; a higher one matters more. -/
def number : EventLevel → Int
  | debug => 10
  | warning => 30
  | error => 40

end EventLevel

namespace Event

/-- How much an event matters. -/
def level : Event → EventLevel
  | emptyArray _ => .warning
  | inferred _ => .debug
  | invalidInput _ _ => .error

/-- The name of an event. -/
def name : Event → Text
  | emptyArray _ => "empty_array_found"
  | inferred _ => "type_inferred"
  | invalidInput _ _ => "invalid_input"

/-- The name of the logger that an event comes from. -/
def source : Event → Text
  | emptyArray _ => "typeshape.core.classify"
  | inferred _ => "typeshape.core.infer"
  | invalidInput _ _ => "typeshape.core.infer"

/-- What else there is to know about an event. -/
def details : Event → List (Text × Value)
  | emptyArray path => [("path", .text path)]
  | inferred s => [("strategy", .text s.name)]
  | invalidInput reason none => [("reason", .text reason)]
  | invalidInput reason (some place) =>
    [("line", .int place.line), ("column", .int place.column), ("reason", .text reason)]

/-- The line that a reader sees of an event (`StructlogLogger`). -/
def line (e : Event) : Text :=
  let fields : List (Text × Value) :=
    [("event", .text e.name), ("logger", .text e.source), ("level", .text e.level.name)]
  (Value.dictionary ((e.details ++ fields).map fun (name, v) => (.text name, v))).json?.getD []

end Event

/-- How events reach a reader. -/
structure Logging where
  handlers : Nat
  level : Int
  deriving DecidableEq, Repr

namespace Logging

/-- The level of events that only matter when something is looked for. -/
def debugLevel : Int := EventLevel.debug.number

/-- The level from which on events are shown if none is given. -/
def defaultLevel : Int := 20

/-- The levels by name. -/
def levels : List (Text × Int) :=
  [("CRITICAL", 50), ("FATAL", 50), ("ERROR", 40), ("WARN", 30), ("WARNING", 30), ("INFO", 20),
    ("DEBUG", 10), ("NOTSET", 0)]

/-- The level that a value is or names. -/
def levelOf (v : Value) : Except Failure Int :=
  match v.asInt?, v.asText? with
  | some n, _ => .ok n
  | none, some t =>
    match Entries.first? (· = ·) t levels with
    | some n => .ok n
    | none => v.shown.bind fun shown => .error (.unknownLevel shown)
  | none, none => v.shown.bind fun shown => .error (.notLevel shown)

/-- The state in which nothing is configured. -/
def initial : Logging := ⟨0, 30⟩

/-- The state after configuring a level (`configure_logging`). -/
def configure (_ : Logging) (level : Int) : Logging :=
  ⟨1, level⟩

/-- Whether an event reaches the reader. -/
def shows (l : Logging) (e : Event) : Bool :=
  0 < l.handlers && l.level ≤ e.level.number

end Logging

end ShapeInference
