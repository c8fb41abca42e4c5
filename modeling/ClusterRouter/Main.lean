import ClusterRouter.CommandLine.Task

/-!
# The program

The files that a command names are read before it starts, and those that it changed are written
when it is done. Commands of the cluster are run by the caller: each is written as one line of JSON
to standard error, and one line of JSON with its exit code and outputs is read from standard input.
-/

namespace ClusterRouter.Main

open CommandLine

def nameOf (location : Location) : String :=
  String.ofList (location.flatMap fun step => '/' :: step)

/-- What is at a place of the machine's own files. What exists and cannot be read as a file counts
as a directory. -/
def look (location : Location) : IO (Option Entry) := do
  try
    pure (some (.file (← IO.FS.readBinFile (nameOf location))))
  catch
    | .noFileOrDirectory .. => pure none
    | _ => pure (some .directory)

/-- Takes over what is on the way to a place. -/
def takeWay (files : FileSystem) : Location → List (List Char) → IO FileSystem
  | _, [] => pure files
  | location, step :: steps => do
    let next :=
      if step = [] ∨ step = ['.'] then location
      else if step = ['.', '.'] then location.dropLast
      else location ++ [step]
    let files ← match files.entry? next with
      | some _ => pure files
      | none => pure (((← look next).map (files.insert next)).getD files)
    takeWay files next steps

def takeName (files : FileSystem) (name : String) : IO FileSystem :=
  let start := if name.toList.head? = some '/' then [] else files.workingDirectory
  takeWay files start (splitName name.toList)

/-- The names of files that a command may touch. -/
def namesOf (command : Command) : List String :=
  match command with
  | .edit edit => [edit.file, edit.file ++ ".orig", edit.file ++ ".yedit"]
  | .reconcile reconcile => reconcile.config.toList

/-- The names of files that settings refer to. -/
def namesIn (settings : Settings) : List String :=
  [settings.certFile, settings.keyFile, settings.caFile].filterMap id ++ [settings.kubeconfig]

def takeFiles (arguments : List String) : IO FileSystem := do
  let here := (splitName (toString (← IO.currentDir)).toList).filter (! ·.isEmpty)
  let files ← takeWay ⟨[], here⟩ [] here
  match Command.parse arguments with
  | .error _ => pure files
  | .ok command =>
    let files ← (namesOf command).foldlM takeName files
    match command with
    | .edit _ => pure files
    | .reconcile reconcile =>
      match reconcile.settings files with
      | .ok settings => (namesIn settings).foldlM takeName files
      | .error _ => pure files

/-- The entry is a file with these contents. -/
def holds (entry : Option Entry) (contents : ByteArray) : Bool :=
  match entry with
  | some (.file old) => old.toList == contents.toList
  | _ => false

/-- Writes the files that are new or changed, and removes those that are gone. -/
def putFiles (before after : FileSystem) : IO Unit := do
  for (location, entry) in after.entries do
    match entry with
    | .directory => pure ()
    | .file contents =>
      unless holds (before.entry? location) contents do
        let name := nameOf location
        IO.FS.writeBinFile (name ++ ".draft") contents
        IO.FS.rename (name ++ ".draft") name
  for (location, _) in before.entries do
    if (after.entry? location).isNone then IO.FS.removeFile (nameOf location)

def invocationLine (invocation : Invocation) : String :=
  let contents (artifact : Artifact) : Value := .string (Text.ofOctets artifact.contents)
  Json.compact (.ofFields ([("argv", Value.list (invocation.words.map .string)),
    ("kubeconfig", contents invocation.kubeconfig)] ++
    (invocation.file.map fun artifact => ("file", contents artifact)).toList))

/-- How a command ended, as the caller tells it. -/
def endingOf (line : String) : Except String Ending :=
  match Json.decode? line with
  | none => .error FileError.notFound.message
  | some reply =>
    let output (name : String) : ByteArray :=
      (((reply.field? name).bind Value.asString).getD "").toUTF8
    .ok { exitCode := ((reply.field? "exit").bind Value.asInt).map Int64.toInt
          stdout := output "stdout"
          stderr := output "stderr" }

def answer (access : Access) (request : Request) : IO Reply := do
  match access.prepare request with
  | .error e => pure (.error e)
  | .ok (invocation, finish) =>
    (← IO.getStderr).putStrLn (invocationLine invocation)
    pure (finish (endingOf (← (← IO.getStdin).getLine)))

def perform (access : Access) (settleSeconds : Nat) : Program Outcome → IO Outcome
  | .done outcome => pure outcome
  | .ask request next => do perform access settleSeconds (next (← answer access request))
  | .settle next => do
    IO.sleep (1000 * settleSeconds).toUInt32
    perform access settleSeconds next

end ClusterRouter.Main

open ClusterRouter ClusterRouter.CommandLine ClusterRouter.Main in
def main (arguments : List String) : IO UInt32 := do
  let files ← takeName (← takeFiles arguments) "/tmp"
  let place : ArtifactPlace :=
    { directory := "/tmp", token := toString (← IO.monoNanosNow), obstacle? := files.refusal? }
  let outcome ← match Task.ofArguments arguments files place with
    | .finished outcome after => do
      putFiles files after
      pure outcome
    | .reconcile access settleSeconds program => perform access settleSeconds program
  (← IO.getStdout).putStr outcome.stdout
  pure (UInt32.ofNat outcome.exitCode)
