import ModuleUpdate.Program

namespace ModuleUpdate.Executable

/-!
# The executable

The executable takes in the part of the file system that a run can look at, runs the program on
it, and writes back what changed.  It opens no connection, so every lookup at a proxy ends as it
does without a network.
-/

/-- The spelling of a location. -/
def spell (location : Location) : String :=
  String.ofList ('/' :: Text.join ['/'] location)

/-- The location of the current directory. -/
def currentLocation : IO Location := do
  let path ← IO.currentDir
  return (path.toString.toList.splitOn '/').filter (· ≠ [])

/-- Take in what is at a location, without what is below it. -/
def observe (tree : FileTree) (location : Location) : IO FileTree := do
  let path := (← IO.currentDir) / spell location
  if ← path.isDir then
    return tree.makeDirectory location
  else if ← path.pathExists then
    return tree.write location (← IO.FS.readBinFile path)
  else
    return tree

/-- Take in the sources and manifests at and below a directory. -/
partial def survey (tree : FileTree) (directory : Location) : IO FileTree := do
  let mut surveyed := tree.makeDirectory directory
  let path := (← IO.currentDir) / spell directory
  for entry in ← path.readDir do
    let name := entry.fileName.toList
    let location := directory ++ [name]
    if ← entry.path.isDir then
      if !SourceFile.isIgnoredName name then
        surveyed ← survey surveyed location
    else if SourceFile.isSourceName name || name == manifestName then
      surveyed := surveyed.write location (← IO.FS.readBinFile entry.path)
  return surveyed

/-- Take in all that a run of an invocation can look at. -/
def takeIn (invocation : Invocation) : IO FileTree := do
  let current ← currentLocation
  let mut tree : FileTree := { current }
  for location in FileTree.way current invocation.directory do
    tree ← observe tree location
  for location in FileTree.way current (invocation.payload.getD []) do
    tree ← observe tree location
  match tree.directory? invocation.directory with
  | some directory => survey tree directory
  | none => return tree

/-- Write the files that a run changed. -/
def writeBack (earlier tree : FileTree) : IO Unit := do
  for (location, written) in tree.changesSince earlier do
    match written with
    | some bytes => IO.FS.writeBinFile (spell location) bytes
    | none => IO.FS.removeFile (spell location)

/-- Read the input of an invocation, which is empty where a terminal would have to be read. -/
def readInput (invocation : Invocation) : IO ByteArray := do
  let input ← IO.getStdin
  if invocation.payload.isSome then
    return ByteArray.empty
  else if ← input.isTty then
    return ByteArray.empty
  else
    input.readBinToEnd

/-- Say why a command line is not run. -/
def refuse (error : UsageError) : IO UInt32 := do
  let code := Program.usageExitCode error
  let stream ← if code = 0 then IO.getStdout else IO.getStderr
  stream.putStr (String.ofList (Program.explain error))
  return code.toUInt32

/-- Run an invocation. -/
def execute (proxySetting : Option Text) (invocation : Invocation) : IO UInt32 := do
  let tree ← takeIn invocation
  let input ← readInput invocation
  let report := Program.run { tree, input, proxySetting } invocation
  writeBack tree report.tree
  for note in report.notes do
    IO.eprintln (String.ofList note.toText)
  let output ← IO.getStdout
  output.putStr (String.ofList report.output)
  output.flush
  return (Program.exitCode report.response).toUInt32

/-- Run the command that the arguments give. -/
def run (arguments : List String) : IO UInt32 := do
  let proxySetting := (← IO.getEnv "GOPROXY").map String.toList
  match Invocation.ofWords proxySetting (arguments.map String.toList) with
  | .error error => refuse error
  | .ok invocation => execute proxySetting invocation

end ModuleUpdate.Executable

/-- Run the program. -/
def main (arguments : List String) : IO UInt32 :=
  ModuleUpdate.Executable.run arguments
