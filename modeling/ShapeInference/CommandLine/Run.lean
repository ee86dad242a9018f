import ShapeInference.CommandLine.Options
import ShapeInference.Inference.Document
import ShapeInference.Logging
import ShapeInference.Settings.Basic

/-!
# The command (`cli`)

A run of the command reads its arguments, a configuration if one is given, and a document, and
writes the declaration of the inferred shape followed by a line end. A file to write is made empty
just before the declaration is, and is left alone if the run stops earlier.

- `Outcome`: everything that a run leaves behind;
- `CommandLine.infer`: the shape of a document under settings;
- `CommandLine.declare`: the declaration of a shape under settings;
- `CommandLine.write`: the outcome of writing it;
- `CommandLine.run`: a run with arguments.
-/

namespace ShapeInference

namespace CommandLine

/-- Everything that a run leaves behind: what it wrote to the standard output, the events that were
shown, the files, and why it stopped, if it did. -/
structure Outcome where
  output : Text
  events : List Event
  files : Files
  stop : Option Stop

namespace Outcome

/-- The exit status. -/
def status (o : Outcome) : Nat :=
  o.stop.elim 0 Stop.status

/-- What is written to the standard error output besides events. A surrogate, which has no encoding,
is written as an escape. -/
def errors (o : Outcome) : Text :=
  (o.stop.elim [] Stop.report).flatMap fun c =>
    if c.isSurrogate then Literal.escapeUnit c.val else [c]

end Outcome

/-- The settings that options and their configuration ask for. -/
def settings (fs : Files) (o : Options) : Except Stop Settings :=
  match o.config.elim (.ok .empty) (Config.load fs) with
  | .error f => .error (.configuration f)
  | .ok config =>
    match Settings.ofConfig config o.overrides with
    | .error f => .error (.settings f)
    | .ok s => .ok s

/-- The bytes of the document. -/
def input (fs : Files) (standard : List UInt8) (o : Options) : List UInt8 :=
  match o.input with
  | none => standard
  | some path => (fs.read path).toOption.getD []

/-- The shape of a document, inferred under settings on a machine. If the machine runs out of
something, what it has reported so far stays. -/
def infer (m : Machine) (s : Settings) (document : Value) : Logged Shape :=
  let inferred := Document.infer document (s.given .strategy)
  match m.inferring s.strategy document with
  | none => inferred
  | some (reported, shortage) => ⟨inferred.events.take reported, .error shortage.failure⟩

/-- The declaration of the shape of a document, under settings, with a line end. -/
def declare (m : Machine) (s : Settings) (shape : Shape) : Except Failure Text :=
  (Request.declare m (.shape shape) (s.given .name) (s.given .indent)).map (· ++ ("\n" : Text))

/-- The outcome of writing a declaration where options ask for it, or of the failure to make one. -/
def write (fs : Files) (o : Options) (events : List Event) (declared : Except Failure Text) :
    Outcome :=
  let (t, stop) := match declared with
    | .ok t => (t, none)
    | .error f => ([], some (.declaration f))
  match o.output with
  | none => ⟨t, events, fs, stop⟩
  | some path =>
    match PathFlaw.of? path, fs.write path (Utf8.encode t) with
    | some flaw, _ => ⟨[], events, fs, some (.noPath flaw)⟩
    | none, .error problem => ⟨[], events, fs, some (.output path problem)⟩
    | none, .ok written => ⟨[], events, written, stop⟩

/-- How a run with options reports events. -/
def logging (o : Options) : Logging :=
  Logging.initial.configure (if o.verbose then Logging.debugLevel else Logging.defaultLevel)

/-- A run with options, on files and the standard input (`cli`). -/
def runWith (m : Machine) (fs : Files) (standard : List UInt8) (o : Options) : Outcome :=
  match settings fs o with
  | .error stop => ⟨[], [], fs, some stop⟩
  | .ok s =>
    let inferred := infer m s (.bytes false (input fs standard o))
    let events := inferred.events.filter (logging o).shows
    match inferred.outcome with
    | .error f => ⟨[], events, fs, some (.document f)⟩
    | .ok shape => write fs o events (declare m s shape)

/-- A run with arguments, on files and the standard input. A request for help goes before all else
that the arguments ask for. -/
def run (m : Machine) (fs : Files) (standard : List UInt8) (arguments : List Text) : Outcome :=
  match Arguments.ofTexts arguments with
  | .error e => ⟨[], [], fs, some (.usage e)⟩
  | .ok a =>
    if a.has .help then ⟨help, [], fs, none⟩
    else
      -- the options are checked in order, and the first error counts
      match Options.ofArguments fs a with
      | .error stop => ⟨[], [], fs, some stop⟩
      | .ok o => runWith m fs standard o

end CommandLine

end ShapeInference
