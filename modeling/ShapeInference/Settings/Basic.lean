import ShapeInference.Request
import ShapeInference.Settings.Config

/-!
# Settings (`DriverSettings`)

The settings of one run: the name of the declaration, the sampling strategy, and the indent. They
come from a configuration, and whatever is given beside it wins.

- `Settings`: settings that have been checked;
- `Settings.Field`: the fields of settings, each with its default and its place in a configuration;
- `Settings.check`: the settings for the values of the fields, checked in order;
- `Settings.ofFields`: the settings for fields by name, with defaults for the rest;
- `Settings.ofConfig`: the settings of a configuration with overrides.
-/

namespace ShapeInference

/-- Settings that have been checked (`DriverSettings`). Without an indent, objects are written on
one line. -/
structure Settings where
  name : Text
  strategy : Strategy
  indent : Option Nat
  deriving DecidableEq, Repr

namespace Settings

/-- The fields of settings. -/
inductive Field where
  | name
  | strategy
  | indent
  deriving DecidableEq, Repr

namespace Field

/-- All fields. -/
def every : List Field := [name, strategy, indent]

/-- The name of a field. -/
def label : Field → Text
  | name => "name"
  | strategy => "strategy"
  | indent => "indent"

/-- The value of a field that is not given. -/
def default : Field → Value
  | name => .text Declaration.defaultName
  | strategy => .text Strategy.all.name
  | indent => .int 2

/-- Where a configuration gives the value of a field. -/
def place : Field → Text
  | name => "declaration.name"
  | strategy => "sampling.strategy"
  | indent => "output.indent"

end Field

/-- A field of settings as callers give it. -/
def given (s : Settings) : Field → Value
  | .name => .text s.name
  | .strategy => .strategy s.strategy
  | .indent => s.indent.elim .null fun n => .int n

/-- The name that a value is. -/
def checkName (v : Value) : Except Failure Text :=
  match v.asText? with
  | some t => Request.checkName v t
  | none => v.shown.bind fun shown => .error (.invalidTypeName shown)

/-- The failure for an indent that is no integer. -/
def refuseIndent (v : Value) : Except Failure (Option Nat) :=
  v.shown.bind fun shown => .error (.indentNotInteger shown)

/-- The indent that a value is: an integer that is not negative, where zero stands for none. A truth
value is not taken for an integer here. -/
def checkIndent (v : Value) : Except Failure (Option Nat) :=
  match v with
  | .null => .ok none
  | .bool _ => refuseIndent v
  | _ =>
    match v.asInt? with
    | none => refuseIndent v
    | some n => (Request.checkIndent v n).map fun k => if k = 0 then none else some k

/-- The settings for the values of the fields (`DriverSettings.__post_init__`); the first that is
wrong fails, and those after it are not looked at. -/
def check (value : Field → Value) : Except Failure Settings := do
  let name ← checkName (value .name)
  let strategy ← Strategy.ofValue (value .strategy)
  return ⟨name, strategy, ← checkIndent (value .indent)⟩

/-- The failure for a name that is no field. -/
def refuseName (name : Text) : Except Failure Settings :=
  if name = ("self" : Text) then .error (.reservedSetting "__init__" name)
  else .error (.unknownSetting name)

/-- The settings for fields by name, where every other field has the value that `other` says. A name
that is no field fails before anything is checked. -/
def complete (other : Field → Value) (fields : List (Text × Value)) : Except Failure Settings :=
  match fields.find? fun field => !(Field.every.map Field.label).contains field.1 with
  | some field => refuseName field.1
  | none =>
    check fun field =>
      match Entries.last? (· = ·) field.label fields with
      | some v => v
      | none => other field

/-- The settings for fields by name, with defaults for the rest. -/
def ofFields (fields : List (Text × Value)) : Except Failure Settings :=
  complete Field.default fields

/-- Whether a value stands for nothing. -/
def isNull : Value → Bool
  | .null => true
  | _ => false

/-- The value that a configuration gives a field, or the default. -/
def configured (c : Config) (field : Field) : Value :=
  c.get field.place field.default

/-- Whether an override would take the place of the configuration, or of what makes the settings. -/
def isReserved (name : Text) : Bool :=
  name = ("cls" : Text) || name = ("config" : Text)

/-- The settings of a configuration, where overrides that are not null win
(`DriverSettings.from_config`). -/
def ofConfig (c : Config) (overrides : List (Text × Value)) : Except Failure Settings :=
  match overrides.find? fun field => isReserved field.1 with
  | some field => .error (.reservedSetting "from_config" field.1)
  | none => complete (configured c) ((Entries.collapse (· = ·) overrides).filter (!isNull ·.2))

end Settings

end ShapeInference
