import ClusterRouter.Text.Search
import ClusterRouter.Value.Basic

/-!
# Results of commands

A command that ran has a result, whether it succeeded or not. Documents that it printed are in
`results`.
-/

namespace ClusterRouter

structure CommandResult where
  returnCode : Int := 0
  command : String := ""
  stdout : String := ""
  stderr : String := ""
  results : Value := .null
  /-- Why the output of a successful command could not be decoded. -/
  decodeError : Option String := none
deriving Inhabited

namespace CommandResult

def succeeded (result : CommandResult) : Bool := result.returnCode == 0

/-- The command failed and said so in the given words. -/
def failedWith (result : CommandResult) (words : String) : Bool :=
  !result.succeeded && Text.contains result.stderr words

/-- The documents of a result: the items of a list of documents, or a single document. -/
def documents (result : CommandResult) : List Value :=
  match result.results with
  | .list items => items
  | .map fields =>
    match Fields.get? fields "items" with
    | some items => items.asList.getD []
    | none => [.map fields]
  | other => [other]

/-- The result with its documents as a list. -/
def asList (result : CommandResult) : CommandResult :=
  { result with results := .list result.documents }

def textField (name text : String) : List (String × Value) :=
  if text.isEmpty then [] else [(name, .string text)]

/-- The fields of a result; empty outputs are left out. -/
def toValue (result : CommandResult) : Value :=
  .map ([("returncode", .int (Int64.ofInt result.returnCode)),
      ("cmd", .string result.command)] ++
    textField "stdout" result.stdout ++ textField "stderr" result.stderr ++
    [("results", result.results)] ++
    (result.decodeError.map fun e => ("decode_error", Value.string e)).toList)

end CommandResult

end ClusterRouter
