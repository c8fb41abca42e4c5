import ClusterRouter.CommandLine.Arguments
import ClusterRouter.Document.Basic
import ClusterRouter.Settings.Basic

/-!
# The commands

`reconcile` brings a router to its wanted state, and `edit` reads or changes one file by paths.
-/

namespace ClusterRouter.CommandLine

structure ReconcileCommand where
  config : Option String := none
  state : Option State := none
  check : Bool := false
  name : Option String := none
  project : Option String := none
  kubeconfig : Option String := none
  settleSeconds : Nat := 15

/-- What is done with a file. Values are still texts. -/
inductive FileOperation where
  | get (key : String)
  | put (key value : String)
  | update (key value : String) (index : Option Int64) (current : Option String)
  | append (key value : String)
  | delete (key : String)
  | holds (key : String) (value : Option String)
  | pop (key value : String)
deriving DecidableEq

structure EditCommand where
  file : String
  separator : Separator := .dot
  backup : Bool := false
  contentType : ContentType := .yaml
  operation : FileOperation

inductive Command where
  | reconcile (command : ReconcileCommand)
  | edit (command : EditCommand)

/-- Decimal digits with a sign in front or none. -/
def integer? (text : String) : Option Int :=
  let number (digits : List Char) : Option Int :=
    if digits.isEmpty || !digits.all Char.isDigit then none
    else some (Text.natOfDigits digits)
  match text.toList with
  | '-' :: digits => (number digits).map (- ·)
  | '+' :: digits => number digits
  | digits => number digits

def int64? (text : String) : Option Int64 := (integer? text).bind Text.int64?

/-- A natural number of 64 bits, which has no minus sign. -/
def natural? (text : String) : Option Nat :=
  if text.toList.head? = some '-' then none
  else ((integer? text).map Int.toNat).filter fun n => n < UInt64.size

/-- The levels of a log: their names in any case, or their numbers. -/
def isLogLevel (text : String) : Bool :=
  (natural? text).any (fun n => 1 ≤ n && n ≤ 5) ||
    ["error", "warn", "info", "debug", "trace"].contains
      (String.ofList (text.toList.map Char.toLower))

def isSeparator (text : String) : Bool := (Separator.parse text).toOption.isSome

def anyText (_ : String) : Bool := true

def fileName (text : String) : Bool := !text.isEmpty

/-- Options that may stand at any level. -/
def commonOptions : List OptionForm :=
  [{ long := "log-level", accepts := some isLogLevel }, { long := "verbose", short := some 'v' },
    helpOption]

def reconcileForm : Form :=
  .mk
    ([{ long := "config", short := some 'c', accepts := some fileName },
      { long := "state", accepts := some fun text => (State.parse? text).isSome },
      { long := "check" },
      { long := "name", accepts := some anyText },
      { long := "namespace", accepts := some anyText },
      { long := "kubeconfig", accepts := some fileName },
      { long := "settle-seconds", accepts := some fun text => (natural? text).isSome }] ++
      commonOptions)
    0 0 []

/-- A command that only has words. -/
def wordsForm (least most : Nat) : Form := .mk commonOptions least most []

def updateForm : Form :=
  .mk
    ([{ long := "index", accepts := some fun text => (int64? text).isSome },
      { long := "curr-value", accepts := some anyText }] ++ commonOptions)
    2 2 []

def editForm : Form :=
  .mk
    ([{ long := "file", short := some 'f', accepts := some fileName },
      { long := "separator", accepts := some isSeparator },
      { long := "backup" },
      { long := "content-type", accepts := some fun text => (ContentType.parse? text).isSome }] ++
      commonOptions)
    0 0
    [("get", wordsForm 1 1), ("put", wordsForm 2 2), ("update", updateForm),
      ("append", wordsForm 2 2), ("delete", wordsForm 1 1), ("exists", wordsForm 1 2),
      ("pop", wordsForm 2 2)]

def mainForm : Form :=
  .mk (commonOptions ++ [versionOption]) 0 0 [("reconcile", reconcileForm), ("edit", editForm)]

def ReconcileCommand.ofLevel (level : Level) : ReconcileCommand where
  config := level.option? "config"
  state := (level.option? "state").bind State.parse?
  check := level.flag "check"
  name := level.option? "name"
  project := level.option? "namespace"
  kubeconfig := level.option? "kubeconfig"
  settleSeconds := ((level.option? "settle-seconds").bind natural?).getD 15

def FileOperation.ofLevel? (level : Level) : Option FileOperation :=
  match level.command, level.words with
  | "get", [key] => some (.get key)
  | "put", [key, value] => some (.put key value)
  | "update", [key, value] =>
    some (.update key value ((level.option? "index").bind int64?) (level.option? "curr-value"))
  | "append", [key, value] => some (.append key value)
  | "delete", [key] => some (.delete key)
  | "exists", [key] => some (.holds key none)
  | "exists", [key, value] => some (.holds key (some value))
  | "pop", [key, value] => some (.pop key value)
  | _, _ => none

def EditCommand.ofLevels? (level inner : Level) : Option EditCommand := do
  let file ← level.option? "file"
  let operation ← FileOperation.ofLevel? inner
  pure {
    file, operation, backup := level.flag "backup"
    separator :=
      ((level.option? "separator").bind fun text => (Separator.parse text).toOption).getD .dot
    contentType := ((level.option? "content-type").bind ContentType.parse?).getD .yaml }

/-- The command that arguments ask for. -/
def Command.parse (arguments : List String) : Except Refusal Command := do
  match ← scan mainForm { command := "" } none arguments with
  | [_, level] => pure (.reconcile (.ofLevel level))
  | [_, level, inner] => ((EditCommand.ofLevels? level inner).map .edit).elim (.error .usage) .ok
  | _ => .error .usage

end ClusterRouter.CommandLine
