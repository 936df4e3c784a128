import OperatorKit.CommandLine.Run

/-!
The program. It takes what the command line mentions from the environment and from files, and gives
the outcome to the streams and to the file that is asked for. It reaches no host.
-/

namespace OperatorKit.Program

/-- The place of a path where no name on the way is a link. -/
def plainPlace (working : List String) (path : String) : List String :=
  (Files.names path).foldl
    (fun place name => if name = "." then place else if name = ".." then place.dropLast else place ++ [name])
    (if path.toList.head? = some '/' then [] else working)

/-- Adds a node, and the directories that it lies in. -/
def expose (files : Files) (path : String) (node : Node) : Files :=
  let place := plainPlace files.working path
  let directories := (List.range place.length).map fun n => (place.take n, Node.directory)
  { files with nodes := (place, node) :: directories ++ files.nodes }

def directoryOf (path : String) : String :=
  path ++ "/.."

/-- The file that a command reads. -/
def input? : Command → Option String
  | .buildCrd source _ _ _ =>
    match Source.ofLocation source with
    | .file path => some path
    | .remote _ => none
  | .queryVersions _ _ _ => none

/-- The file that a command writes. -/
def output? : Command → Option String
  | .buildCrd _ output _ _ => output
  | .queryVersions _ _ _ => none

def fromEnvironment (name : String) : IO (List (String × String)) := do
  return ((← IO.getEnv name).map fun value => (name, value)).toList

def content? (path : String) : IO (Option (List UInt8)) := do
  try return some (← IO.FS.readBinFile path).data.toList
  catch _ => return none

def worldOf (environment : List (String × String)) (command : Command) : IO World := do
  let working := Files.names (← IO.currentDir).toString
  let files : Files := { working, nodes := [] }
  let files := match output? command with
    | some path => expose files (directoryOf path) .directory
    | none => files
  let files ← match input? command with
    | none => pure files
    | some path => do
      match ← content? path with
      | some content => pure (expose files path (.file content))
      | none => pure files
  return { environment, files, network := .unreachable }

def report (failure : Failure) : IO Unit := do
  IO.eprintln (failure.kind.code ++ "\n" ++ failure.message)
  if let some help := failure.help then
    IO.eprintln ("help: " ++ help)

/-- Shows an outcome, whose output file is written if there is one. -/
def deliver (outcome : Outcome) (output : Option String) : IO UInt32 := do
  IO.print outcome.output
  if let some failure := outcome.failure then
    report failure
  match output with
  | none => return outcome.exitCode.toUInt32
  | some path =>
    match outcome.exitCode, outcome.files.read path with
    | 0, .ok content => do
      try
        IO.FS.writeBinFile path content.toByteArray
        return 0
      catch e => do
        IO.eprintln (FailureKind.io.label ++ toString e)
        return FailureKind.io.exitCode.toUInt32
    | code, _ => return code.toUInt32

end OperatorKit.Program

open OperatorKit in
def main (arguments : List String) : IO UInt32 := do
  let environment := (← Program.fromEnvironment "APIUSER") ++ (← Program.fromEnvironment "GITHUB_API_URL")
  match readArguments environment arguments with
  | .error stop => do
    let outcome := World.stopped ⟨environment, ⟨[], []⟩, .unreachable⟩ stop
    if stop = .usage then IO.eprint World.helpText
    Program.deliver outcome none
  | .ok invocation => do
    let world ← Program.worldOf environment invocation.command
    match world.run arguments with
    | none => return 1
    | some outcome => Program.deliver outcome (Program.output? invocation.command)
