import ClusterRouter.CommandLine.Command
import ClusterRouter.CommandLine.Report
import ClusterRouter.Document.Editing
import ClusterRouter.Document.Persistence

/-!
# The command that edits a file

The file is written only when the document changed. Values are written in YAML on the command line.
-/

namespace ClusterRouter.CommandLine

inductive FileEditError where
  | document (cause : DocumentError)
  | value (text : String)
  | writing (file : String) (cause : DocumentError)

def FileEditError.outcome : FileEditError → Outcome
  | .document cause => .ofDocumentError [] cause
  | .value text => .failure ["cannot parse value '" ++ text ++ "'"]
  | .writing file cause => .ofDocumentError ["cannot write " ++ file] cause

/-- What an edit came to; the result is a value looked up or the whole document. -/
structure FileEditResult where
  changed : Bool
  result : Value

def FileEditResult.toValue (outcome : FileEditResult) : Value :=
  .map [("changed", .bool outcome.changed), ("result", outcome.result)]

def readValue (text : String) : Except FileEditError Value :=
  (Yaml.decode? text).elim (.error (.value text)) .ok

/-- An operation whose values have been read. -/
inductive DocumentOperation where
  | look (find : Document → Except DocumentError Value)
  | change (edit : Editing Bool)

def FileOperation.read : FileOperation → Except FileEditError DocumentOperation
  | .get key => .ok (.look fun document => (document.lookup key).map (·.getD .null))
  | .holds key text => do
    let value ← text.elim (.ok .null) readValue
    pure (.look fun document => (document.contains key value).map .bool)
  | .put key text => do pure (.change (Document.put key (← readValue text)))
  | .update key text index current => do
    let current ← current.mapM readValue
    pure (.change (Document.update key (← readValue text) index current))
  | .append key text => do pure (.change (Document.append key (← readValue text)))
  | .delete key => .ok (.change (Document.remove key))
  | .pop key text => do pure (.change (Document.pop key (← readValue text)))

abbrev FileEditing := EStateM FileEditError FileSystem

def check {α : Type} : Except FileEditError α → FileEditing α
  | .ok result => pure result
  | .error e => throw e

def EditCommand.document (command : EditCommand) (files : FileSystem) :
    Except FileEditError Document :=
  match Document.openFile files command.file command.contentType with
  | .ok document =>
    .ok { document with separator := command.separator, backup := command.backup }
  | .error e => .error (.document e)

/-- Writes a changed document. What was written before a failure stays. -/
def store (file : String) (document : Document) : FileEditing Unit := fun files =>
  match document.write.run files with
  | .ok _ files => .ok () files
  | .error e files => .error (.writing file e) files

def EditCommand.run (command : EditCommand) : FileEditing FileEditResult := do
  let document ← check (command.document (← get))
  match ← check command.operation.read with
  | .look look => do
    let result ← check ((look document).mapError .document)
    pure ⟨false, result⟩
  | .change edit =>
    match edit.run document with
    | .ok true document => do
      store command.file document
      pure ⟨true, document.root⟩
    | .ok false document => pure ⟨false, document.root⟩
    | .error e _ => throw (.document e)

/-- The outcome of the command, and the files after it. -/
def EditCommand.outcome (command : EditCommand) (files : FileSystem) : Outcome × FileSystem :=
  match command.run.run files with
  | .ok result files => (.success result.toValue, files)
  | .error e files => (e.outcome, files)

end ClusterRouter.CommandLine
