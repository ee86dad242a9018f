import ShapeInference.Files
import ShapeInference.Settings.Config
import ShapeInference.Yaml.Assembly

/-!
# Configuration files (`load_config`)

- `ConfigFailure`: why a configuration file cannot be used;
- `Config.load`: the configuration in a file; a file that is not there configures nothing.
-/

namespace ShapeInference

/-- Why a configuration file cannot be used. -/
inductive ConfigFailure where
  /-- There is a directory at its path. -/
  | isDirectory (path : Text)
  /-- Its bytes are no document. -/
  | unreadable (path : Text) (f : Yaml.Failure)
  /-- Its value is no mapping. -/
  | notMapping (path : Text)

namespace ConfigFailure

/-- The wording of a failure. -/
def message : ConfigFailure → Text
  | isDirectory path => ("[Errno 21] Is a directory: " : Text) ++ path.quoted
  | unreadable path f => f.message path
  | notMapping path =>
    ("Configuration file " : Text) ++ path ++ (" must contain a mapping" : Text)

/-- Whether the content of the file is at fault. -/
def isReported : ConfigFailure → Bool
  | isDirectory _ => false
  | unreadable _ f => f.isReported
  | notMapping _ => true

end ConfigFailure

namespace Config

/-- The configuration in the bytes of a file, which have to be a dictionary unless they say nothing.
-/
def ofBytes (path : Text) (bytes : List UInt8) : Except ConfigFailure Config :=
  match Yaml.Document.ofBytes bytes with
  | .error f => .error (.unreadable path f)
  | .ok d =>
    if d.root = .atom .null then .ok empty
    else if (d.entries? d.root).isSome then .ok (document d)
    else .error (.notMapping path)

/-- The configuration in the file at a path (`load_config`). -/
def load (fs : Files) (path : Text) : Except ConfigFailure Config :=
  match fs.find path with
  | .error _ => .ok empty
  | .ok .directory => .error (.isDirectory path)
  | .ok (.file bytes) => ofBytes path bytes

end Config

end ShapeInference
