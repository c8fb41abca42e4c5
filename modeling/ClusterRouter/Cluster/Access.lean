import ClusterRouter.Cluster.Request
import ClusterRouter.Json.Decoder
import ClusterRouter.Text.Utf8

/-!
# Access to a cluster by commands

Each request is one command line for `oc` or `oadm`. The commands read a copy of the kubeconfig
and work in one project, or in none.
-/

namespace ClusterRouter

structure Access where
  project : Option String
  kubeconfig : Artifact
  oc : String := "oc"
  oadm : String := "oadm"

/-- One command: the program with its arguments, and the artifacts that it reads. -/
structure Invocation where
  words : List String
  kubeconfig : Artifact
  file : Option Artifact := none

/-- How a command ended. One that a signal ended has no exit code. -/
structure Ending where
  exitCode : Option Int
  stdout : ByteArray
  stderr : ByteArray

namespace Access

/-- The words "none" and "empty", in any case, stand for no project. -/
def projectOf (text : String) : Option String :=
  if ["", "none", "empty"].contains (String.ofList (text.toList.map Char.toLower)) then none
  else some text

/-- Takes a copy of the kubeconfig for the commands. -/
def start (place : ArtifactPlace) (files : FileSystem) (project kubeconfig : String) :
    Except RequestError Access :=
  match place.copyOf files "kubeconfig-" kubeconfig with
  | .ok copy => .ok { project := projectOf project, kubeconfig := copy }
  | .error e => .error (.kubeconfig e)

def selectorOption (selector : Option String) : List String :=
  (selector.map fun s => "--selector=" ++ s).toList

/-- The program and the arguments that a request needs. -/
def program (access : Access) : Request → String
  | .render .. => access.oadm
  | _ => access.oc

def arguments : Request → List String
  | .render name options _ => ["router", name] ++ options ++ ["--dry-run=true", "-o", "json"]
  | .get kind name selector =>
    ["get", kind.commandName] ++
      (if selector.isSome then selectorOption selector
        else if name.isEmpty then [] else [name]) ++ ["-o", "json"]
  | .create file => ["create", "-f", file.path]
  | .delete kind name selector => ["delete", kind.commandName, name] ++ selectorOption selector
  | .replace file force => ["replace", "-f", file.path] ++ if force then ["--force"] else []
  | .process template parameters =>
    ["process", template] ++
      if parameters.isEmpty then []
      else "-v" :: parameters.map fun (key, value) => key ++ "=" ++ value

def fileOf? : Request → Option Artifact
  | .create file | .replace file _ => some file
  | _ => none

def invocation (access : Access) (request : Request) : Invocation where
  words := access.program request ::
    (access.project.elim [] fun project => ["-n", project]) ++ arguments request
  kubeconfig := access.kubeconfig
  file := fileOf? request

/-- The output of a command that answers this request is JSON. -/
def answersJson : Request → Bool
  | .render .. | .get .. | .process .. => true
  | _ => false

/-- The result of a command of which the exit code and the outputs are known. -/
def resultOf (request : Request) (command : String) (ending : Ending) : CommandResult :=
  let stdout := Text.ofOctets ending.stdout
  let result : CommandResult :=
    { returnCode := ending.exitCode.getD (-1), command, stdout,
      stderr := Text.ofOctets ending.stderr }
  let decoded :=
    if !result.succeeded then { result with results := .map [] }
    else if !answersJson request then result
    else
      match Json.decode? stdout with
      | some results => { result with results }
      | none => { result with decodeError := some "invalid JSON" }
  match request with
  | .get .. => decoded.asList
  | _ => decoded

/-- A word that no command can be given. -/
def hasNul (word : String) : Bool := word.toList.contains '\x00'

/-- What a request comes to: a command to be run, whose ending gives the reply, or a failure before
any command is run. -/
def prepare (access : Access) (request : Request) :
    Except RequestError (Invocation × (Except String Ending → Reply)) :=
  let invocation := access.invocation request
  let command := " ".intercalate invocation.words
  if invocation.words.any hasNul then
    .error (.notStarted command "nul byte found in provided data")
  else
    .ok (invocation, fun
      | .ok ending => .ok (resultOf request command ending)
      | .error cause => .error (.notStarted command cause))

end Access

end ClusterRouter
