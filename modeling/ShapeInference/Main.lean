import ShapeInference.CommandLine.Run

/-!
# The program

What a run needs of the file system is read before it, and what it changed is written after it.
-/

namespace ShapeInference

namespace Program

/-- What the file system has at a path, if anything can be read there. -/
def nodeAt (path : Text) : IO (Option FileNode) := do
  try
    return some (.file (← IO.FS.readBinFile path.toString).data.toList)
  catch
    | .inappropriateType _ _ _ => return some .directory
    | _ => return none

/-- The files with everything on the way along a path. -/
def lookAlong (fs : Files) (path : Text) : IO Files := do
  let parts := Files.parts path
  let base : Text := if path.head? = some ('/' : CodePoint) then "/" else []
  let mut found := fs
  for n in List.range parts.length do
    let way := parts.take (n + 1)
    match ← nodeAt (base ++ Text.join "/" way) with
    | some node => found := found.put (way.foldl Files.enter (Files.start path)) node
    | none => pure ()
  return found

/-- The paths that arguments name. -/
def paths (a : CommandLine.Arguments) : List Text :=
  [a.get? .inputFile, a.get? .outputFile, a.get? .config].filterMap id

/-- The bytes of the standard input, unless arguments name a file instead or ask for help. -/
def standardInput (a : CommandLine.Arguments) : IO (List UInt8) := do
  let path := (a.get? .inputFile).bind CommandLine.Options.path?
  if path.isSome || a.has .help then return []
  else return (← IO.FS.readBinFile "/dev/stdin").data.toList

/-- A run with arguments; what it leaves behind is written. -/
def run (arguments : List Text) : IO UInt32 := do
  let a := (CommandLine.Arguments.ofTexts arguments).toOption.getD .empty
  let fs ← (paths a).foldlM lookAlong .empty
  let standard ← standardInput a
  -- what runs out here ends the program itself
  let outcome := CommandLine.run .boundless fs standard arguments
  for event in outcome.events do
    IO.eprintln event.line.toString
  IO.eprint outcome.errors.toString
  IO.print outcome.output.toString
  for path in (a.get? .outputFile).toList do
    let bytes := (outcome.files.read path).toOption
    if bytes ≠ (fs.read path).toOption then
      IO.FS.writeBinFile path.toString ⟨(bytes.getD []).toArray⟩
  return outcome.status.toUInt32

end Program

end ShapeInference

/-- The command with its arguments. -/
def main (arguments : List String) : IO UInt32 :=
  ShapeInference.Program.run (arguments.map ShapeInference.Text.ofString)
