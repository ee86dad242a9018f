import ShapeInference.CommandLine.Arguments
import ShapeInference.CommandLine.Stop
import ShapeInference.Text.Numeral
import ShapeInference.Value.Basic

/-!
# Checked options

- `Options`: what the arguments of the command ask for;
- `Options.check`: the first error of an option, if any;
- `Options.ofArguments`: the options for arguments, which are checked in order;
- `Options.overrides`: the options as settings that win over a configuration.
-/

namespace ShapeInference

namespace CommandLine

/-- What the arguments of the command ask for. Without a path, input and output are the standard
ones. -/
structure Options where
  input : Option Text
  output : Option Text
  name : Option Text
  strategy : Option Text
  indent : Option Int
  compact : Bool
  config : Option Text
  verbose : Bool
  deriving DecidableEq, Repr

namespace Options

/-- The path that an argument is, unless it stands for the standard input or output. -/
def path? (t : Text) : Option Text :=
  if t = ("-" : Text) then none else some t

/-- What is wrong with a path to read from, as a usage error. -/
def checkPath (path : Text) (wrong? : Option UsageError) : Except Stop Unit :=
  match PathFlaw.of? path, wrong? with
  | some flaw, _ => .error (.noPath flaw)
  | none, some e => .error (.usage e)
  | none, none => .ok ()

/-- The error for an input at a path, if it cannot be read. -/
def wrongInput? (fs : Files) (path : Text) : Option UsageError :=
  match fs.read path with
  | .ok _ => none
  | .error problem => some (.unreadableInput path problem)

/-- The error for a configuration at a path, if there is no file. -/
def wrongConfig? (fs : Files) (path : Text) : Option UsageError :=
  match fs.find path with
  | .error _ => some (.configMissing path)
  | .ok .directory => some (.configIsDirectory path)
  | .ok (.file _) => none

/-- The first error in the argument of an option. A file to write is not looked at before it is
written. -/
def check (fs : Files) (p : Parameter) (t : Text) : Except Stop Unit :=
  match p with
  | .inputFile => (path? t).elim (.ok ()) fun path => checkPath path (wrongInput? fs path)
  | .strategy =>
    if (Strategy.ofName? t).isSome then .ok () else .error (.usage (.unknownStrategy t))
  | .indent =>
    match Numeral.read? t with
    | none => .error (.usage (.indentNotNumeral t))
    | some n => if n < 0 then .error (.usage (.negativeIndent n)) else .ok ()
  | .config => checkPath t (wrongConfig? fs t)
  | _ => .ok ()

/-- The first error in the arguments of the options given. -/
def checkAll (fs : Files) (a : Arguments) : Except Stop Unit :=
  a.order.forM fun p => (a.get? p).elim (.ok ()) (check fs p)

/-- The options for arguments. What belongs to no option is an error after all others. -/
def ofArguments (fs : Files) (a : Arguments) : Except Stop Options := do
  checkAll fs a
  if a.extra.isEmpty then
    return {
      input := (a.get? .inputFile).bind path?
      output := (a.get? .outputFile).bind path?
      name := a.get? .name
      strategy := a.get? .strategy
      indent := (a.get? .indent).bind Numeral.read?
      compact := a.has .compact
      config := a.get? .config
      verbose := a.has .verbose }
  else throw (.usage (.extraArguments a.extra))

/-- The indent that is asked for. A compact declaration has none, whatever else is asked for. -/
def indentAsked (o : Options) : Option Int :=
  if o.compact then some 0 else o.indent

/-- The options as overrides of a configuration; null is for what is not asked for. -/
def overrides (o : Options) : List (Text × Value) :=
  [("name", o.name.elim .null .text), ("strategy", o.strategy.elim .null .text),
    ("indent", o.indentAsked.elim .null .int)]

end Options

end CommandLine

end ShapeInference
