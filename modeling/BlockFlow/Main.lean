import BlockFlow.Command.Run

/-!
# The command

Runs the command on the real file system. The part of it that the arguments mention is read into a
file tree, the run itself is a function of that tree, and what the run added is written back.
-/

namespace BlockFlow.Command

/-- The variables the settings are read from. -/
def readEnvironment : IO Environment := do
  let names := ["LOG_LEVEL", "DECLARATION_SCOPE", "EXPAND_NESTED_DEFINITIONS", "HOST", "PORT",
    "CORS_ORIGINS"]
  names.filterMapM fun name => do
    let name := "VISUALCODER_" ++ name
    return (← IO.getEnv name).map fun value => (name, Text.ofString value)

/-- A text as the system takes it; what is not a character is replaced. -/
def display (t : Text) : String :=
  String.ofList (t.map fun c => c.char?.getD '\ufffd')

/-- The entry at a path of the file system. -/
def readEntry (path : Text) : IO (Option Entry) := do
  let path := (← IO.currentDir) / display path
  if ← path.isDir then return some .directory
  else if ← path.pathExists then
    let bytes ← IO.FS.readBinFile path
    return some (.file (.bytes (bytes.toList.map UInt8.toNat)))
  else return none

/-- Adds a path and everything above it to a file tree. -/
def addPath (t : FileTree) (p : Path) : IO FileTree := do
  let mut t := t
  for n in List.range (p.parts.length + 1) do
    let p : Path := { p with parts := p.parts.take n }
    match t.locate p, ← readEntry p.text with
    | .ok location, some entry => t := t.set location entry
    | _, _ => pure ()
  return t

/-- The part of the file system that the arguments mention. -/
def readTree (arguments : List Text) : IO FileTree := do
  let workingDirectory := (Path.ofText (← IO.currentDir).toString).parts
  let above := (List.range workingDirectory.length).map fun n =>
    (workingDirectory.take (n + 1), Entry.directory)
  let t : FileTree := ⟨workingDirectory, above⟩
  match readArguments arguments with
  | .ok (.run o path) =>
    let t ← addPath t (.ofText path)
    match o.plan with
    | .ok plan =>
      let t ← addPath t plan.directory
      let names := (outputs plan false (outputStem (.ofText path)) {}).map (·.1)
      names.foldlM (fun t name => addPath t (plan.directory.join name)) t
    | .error _ => return t
  | _ => return t

/-- Writes what a run added to the file tree, oldest first. -/
def writeTree (before after : FileTree) : IO Unit := do
  for (location, entry) in after.entries.reverse do
    if before.get? location ≠ some entry then
      let path := "/" ++ String.intercalate "/" (location.map display)
      match entry with
      | .directory => IO.FS.createDirAll path
      | .file (.text s) => IO.FS.writeFile path (display s)
      | .file (.bytes _) => pure ()

/-- Runs the command and gives its exit code. -/
def runOnDisk (arguments : List Text) : IO UInt32 := do
  let before ← readTree arguments
  let outcome := run (← readEnvironment) before arguments
  writeTree before outcome.tree
  (← IO.getStdout).putStr (display outcome.stdout)
  let stderr ← IO.getStderr
  for warning in outcome.warnings do
    stderr.putStrLn (display warning.message)
  stderr.putStr (display outcome.stderr)
  match outcome.ending with
  | .exit code => return code.toUInt32
  | .failed failure =>
    stderr.putStrLn (display failure.message)
    return 1

end BlockFlow.Command

/-- The command line program. -/
def main (arguments : List String) : IO UInt32 :=
  BlockFlow.Command.runOnDisk (arguments.map BlockFlow.Text.ofString)
