import ModuleUpdate.CommandLine
import ModuleUpdate.Manifest.Summary
import ModuleUpdate.Registry.Proxy
import ModuleUpdate.Response
import ModuleUpdate.Update
import ModuleUpdate.Upgrade

namespace ModuleUpdate

/-!
# The program

One run of the program: the command line, the payload, the task and the answer.  A run is a
function of its surroundings, which are the files, the input, the environment and the network.
-/

/-- What a run finds. -/
structure Surroundings where
  tree : FileTree
  input : ByteArray
  proxySetting : Option Text := none
  network : Proxy.Network := Proxy.Network.unreachable

/-- What a task leaves behind, with the addresses at which a server was reached for it. -/
structure Performance where
  result : Except Failure Json
  tree : FileTree
  notes : List Note := []
  requests : List Text := []

namespace Performance

/-- A task that failed before it did anything. -/
def failed (tree : FileTree) (failure : Failure) : Performance :=
  { result := .error failure, tree }

end Performance

namespace Program

/-- The name of the program. -/
def name : Text :=
  "gomodup".toList

/-- The version of the program. -/
def version : Text :=
  "0.1.0".toList

/-- Read the payload from the file that the invocation names, or else from the input. -/
def readPayload (surroundings : Surroundings) : Option Text → Except Failure Text
  | some path =>
      match surroundings.tree.read path with
      | .ok text => .ok text
      | .error fault => .error (.unreadable path fault)
  | none =>
      match Text.ofBytes? surroundings.input with
      | some text => .ok text
      | none => .error (.unreadable "<stdin>".toList .notText)

/-- The task of an invocation and its arguments; the payload of a dispatch names both. -/
def taskOf (command : Command) (payload : Json) : Except PayloadFault (Task × Json) :=
  match command.task? with
  | some task => .ok (task, payload)
  | none =>
      match Request.decode Request.Call.ofJson? payload with
      | .error fault => .error fault
      | .ok call => (Task.ofName call.name).map fun task => (task, call.arguments)

/-- Update the dependencies that the arguments name. -/
def updateDependencies (tree : FileTree) (directory : Text) (arguments : Json) : Performance :=
  match Request.decode Request.Update.ofJson? arguments with
  | .error fault => .failed tree (.payload fault)
  | .ok request =>
      let outcome := ModuleUpdate.updateDependencies tree directory request.dependencies
      { result := outcome.result.map fun changed => .array (changed.map Json.string)
        tree := outcome.tree
        notes := outcome.notes }

/-- Find the version for the dependency that the arguments name. -/
def selectVersion
    (surroundings : Surroundings)
    (invocation : Invocation)
    (arguments : Json) :
    Performance :=
  match Request.decode Request.Selection.ofJson? arguments with
  | .error fault => .failed surroundings.tree (.payload fault)
  | .ok request =>
      match Proxy.ofSetting? invocation.proxy with
      | none => .failed surroundings.tree (.noUsableProxy invocation.proxy)
      | some base =>
          let upgrade :=
            Upgrade.find surroundings.tree invocation.directory
              (Proxy.repository surroundings.network base) request.dependency
              request.exclusions
          { result := upgrade.result.map Json.string
            tree := surroundings.tree
            notes := upgrade.notes
            requests := Proxy.reached surroundings.network base upgrade.asked }

/-- Summarize the manifest. -/
def summarize (tree : FileTree) (directory : Text) : Performance :=
  { result := (ManifestFile.load tree directory).map fun file => file.manifest.summary
    tree }

/-- Perform the task of an invocation. -/
def perform (surroundings : Surroundings) (invocation : Invocation) : Performance :=
  let tree := surroundings.tree
  match tree.directory? invocation.directory with
  | none => .failed tree (.notDirectory invocation.directory)
  | some _ =>
      match readPayload surroundings invocation.payload with
      | .error failure => .failed tree failure
      | .ok text =>
          match (Request.payload text).bind (taskOf invocation.command) with
          | .error fault => .failed tree (.payload fault)
          | .ok (.updateDependencies, arguments) =>
              updateDependencies tree invocation.directory arguments
          | .ok (.selectVersion, arguments) => selectVersion surroundings invocation arguments
          | .ok (.summarize, _) => summarize tree invocation.directory

/--
What a run leaves behind: its answer, unless it broke off, the notes it prints, and the changed
tree.
-/
structure Report where
  response : Option Response
  output : Text
  notes : List Note
  tree : FileTree
  requests : List Text

/-- The answer that a task's result makes, unless the run breaks off. -/
def respond : Except Failure Json → Option Response
  | .ok result => some (.success result)
  | .error .unsortable => none
  | .error failure => some (.failure failure.message)

/-- The warning that goes with a failure. -/
def warnings : Except Failure Json → List Note
  | .ok _ => []
  | .error .unsortable => []
  | .error failure => [.warning failure.message]

/-- Run an invocation. -/
def run (surroundings : Surroundings) (invocation : Invocation) : Report :=
  let performance := perform surroundings invocation
  let response := respond performance.result
  let opening :=
    [Note.step (name ++ " v".toList ++ version), .detail "dir".toList invocation.directory]
  { response
    output := (response.map (Response.toText invocation.pretty)).getD []
    notes :=
      if invocation.verbose then
        opening ++ performance.notes ++ warnings performance.result
      else
        []
    tree := performance.tree
    requests := performance.requests }

/-- The exit code of a run with or without an answer. -/
def exitCode : Option Response → Nat
  | none => 101
  | some response => if response.isError then 1 else 0

/-- A short account of the command line. -/
def usage : Text :=
  ("Usage: gomodup [OPTIONS] <COMMAND>\n\n".toList ++
    "Commands: update-dependency-file, get-updated-version, edit-json, run\n".toList ++
    "Options: --dir <DIR>, --goproxy <LIST>, --timeout <TIME>, --args <FILE>,\n".toList ++
    "         --verbose, --progress, --pretty, --help, --version\n".toList)

/-- What is said about a command line without a command to run. -/
def explain : UsageError → Text
  | .versionRequested => name ++ ' ' :: version ++ ['\n']
  | .helpRequested | .nothingGiven => usage
  | error => "error: ".toList ++ error.message ++ "\n\n".toList ++ usage

/-- The exit code of a command line without a command to run. -/
def usageExitCode : UsageError → Nat
  | .helpRequested | .versionRequested => 0
  | _ => 2

end Program

end ModuleUpdate
