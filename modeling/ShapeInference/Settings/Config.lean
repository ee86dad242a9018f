import ShapeInference.Failure
import ShapeInference.Value.Inspect
import ShapeInference.Yaml.Document

/-!
# Configurations (`Config`)

A configuration is a value or a document, as a rule a dictionary of dictionaries. Names with points
lead into it step by step.

- `Config.ofValue`: the configuration for a value; one that does not count as given is empty;
- `Config.find?`: the value that a list of keys leads to;
- `Config.get`: the value at a name with points, or another one if there is none.
-/

namespace ShapeInference

/-- A configuration. A document may have parts inside themselves, so only what is looked up in it
becomes a value. -/
inductive Config where
  | value (v : Value)
  | document (d : Yaml.Document)

namespace Config

/-- The configuration that holds nothing. -/
def empty : Config := value (.dictionary [])

/-- The configuration for a value (`Config.__init__`). -/
def ofValue (v : Value) : Config :=
  if v.isTruthy then value v else empty

/-- The value that a list of keys leads to, one dictionary after the other. -/
def find? : List Text → Value → Option Value
  | [], v => some v
  | key :: keys, v => (v.asEntries?.bind (Value.lookup? · key)).bind (find? keys)

/-- The value at a name with points, or `default` if it leads nowhere (`Config.get`). -/
def get (c : Config) (name : Text) (default : Value) : Value :=
  let keys := name.splitOn '.'
  match c with
  | value v => (find? keys v).getD default
  | document d => ((d.find? keys d.root).map d.value).getD default

/-- All that a configuration holds. -/
def data : Config → Value
  | value v => v
  | document d => d.value d.root

/-- A configuration as it is shown (`Config.__repr__`). -/
def inspect? (c : Config) : Option Text :=
  c.data.spell?.map fun t => ("Config(config_data=" : Text) ++ t ++ (")" : Text)

end Config

end ShapeInference
