import ShapeInference.Entries
import ShapeInference.Files.Naming

/-!
# Files

The files that a run can see, as a value. Their places are counted from the directory of the run or
from the root.

- `Files`: files with their contents and directories, by place;
- `PathProblem`: why there is nothing to read or to write at a path;
- `Files.find`: what is at a path;
- `Files.read`: the bytes of a file;
- `Files.write`: the files after one was written.
-/

namespace ShapeInference

/-- What is at a path. -/
inductive FileNode where
  | file (bytes : List UInt8)
  | directory
  deriving DecidableEq, Repr

/-- Why there is nothing to read or to write at a path. -/
inductive PathProblem where
  | missing
  | notDirectory
  | isDirectory
  | tooLong
  deriving DecidableEq, Repr

/-- The wording of a problem. -/
def PathProblem.message : PathProblem → Text
  | missing => "No such file or directory"
  | notDirectory => "Not a directory"
  | isDirectory => "Is a directory"
  | tooLong => "File name too long"

/-- The names that lead to something, from the directory of the run or, if the first one is a slash,
from the root. -/
abbrev FilePlace := List Text

/-- Files and directories by their places. -/
structure Files where
  nodes : List (FilePlace × FileNode)

namespace Files

/-- No files. -/
def empty : Files := ⟨[]⟩

/-- The name at the beginning of places that are counted from the root. -/
def root : Text := "/"

/-- The name for the directory above. -/
def above : Text := ".."

/-- The parts of a path between its slashes, by their canonical names. -/
def parts (path : Text) : List Text :=
  ((Naming.canonical path).splitOn '/').filter (!·.isEmpty)

/-- The place where a path begins. -/
def start (path : Text) : FilePlace :=
  if path.head? = some ('/' : CodePoint) then [root] else []

/-- The place of a part of a path in the directory at a place. -/
def enter (place : FilePlace) (part : Text) : FilePlace :=
  if part = ("." : Text) then place
  else if part = above then
    match place.getLast? with
    | none => [above]
    | some last =>
      if last = above then place ++ [above]
      else if last = root then place
      else place.dropLast
  else place ++ [part]

/-- The place that a path leads to if all directories on the way are there. -/
def placeOf (path : Text) : FilePlace :=
  (parts path).foldl enter (start path)

/-- Whether a place is the directory of the run, one above it, or the root. -/
def isBase (place : FilePlace) : Bool :=
  place = [root] || place.all (· = above)

/-- The node at a place. Every directory is there in which something is. -/
def node? (fs : Files) (place : FilePlace) : Option FileNode :=
  if isBase place then some .directory
  else
    match Entries.first? (· = ·) place fs.nodes with
    | some node => some node
    | none =>
      if fs.nodes.any fun (names, _) => place.isPrefixOf names then some .directory else none

/-- The place and the node that parts of a path lead to from a place. What has parts after it has to
be a directory. -/
def follow (fs : Files) (place : FilePlace) : List Text → Except PathProblem (FilePlace × FileNode)
  | [] =>
    match fs.node? place with
    | some node => .ok (place, node)
    | none => .error .missing
  | part :: rest =>
    match fs.node? place with
    | none => .error .missing
    | some (.file _) => .error .notDirectory
    | some .directory =>
      if Naming.maxPart < Naming.size part then .error .tooLong
      else fs.follow (enter place part) rest

/-- Whether a path ends in a slash, so that only a directory can be there. -/
def endsOpen (path : Text) : Bool :=
  path.getLast? = some ('/' : CodePoint)

/-- What is at a path. -/
def find (fs : Files) (path : Text) : Except PathProblem FileNode :=
  if path.isEmpty || (PathFlaw.of? path).isSome then .error .missing
  else if Naming.maxPath < Naming.size path then .error .tooLong
  else
    match fs.follow (start path) (parts path) with
    | .error problem => .error problem
    | .ok (_, .file bytes) => if endsOpen path then .error .notDirectory else .ok (.file bytes)
    | .ok (_, .directory) => .ok .directory

/-- The bytes of the file at a path. -/
def read (fs : Files) (path : Text) : Except PathProblem (List UInt8) :=
  match fs.find path with
  | .ok (.file bytes) => .ok bytes
  | .ok .directory => .error .isDirectory
  | .error problem => .error problem

/-- The files with a node put at a place. -/
def put (fs : Files) (place : FilePlace) (node : FileNode) : Files :=
  ⟨Entries.insert (· = ·) place node fs.nodes⟩

/-- The place of a file to be written at a path, which may be there already; its directory has to be
there. -/
def target (fs : Files) (path : Text) : Except PathProblem FilePlace :=
  if Naming.maxPath < Naming.size path then .error .tooLong
  else
    match (parts path).getLast? with
    | none => .error (if path.isEmpty then .missing else .isDirectory)
    | some last =>
      match fs.follow (start path) (parts path).dropLast with
      | .error problem => .error problem
      | .ok (_, .file _) => .error .notDirectory
      | .ok (directory, .directory) =>
        let place := enter directory last
        if endsOpen path || fs.node? place = some .directory then .error .isDirectory
        else if Naming.maxPart < Naming.size last then .error .tooLong
        else .ok place

/-- The files after bytes were written at a path. -/
def write (fs : Files) (path : Text) (bytes : List UInt8) : Except PathProblem Files :=
  (fs.target path).map fun place => fs.put place (.file bytes)

end Files

end ShapeInference
