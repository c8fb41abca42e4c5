import ClusterRouter.Json.Printer
import ClusterRouter.Reconcile.Error
import ClusterRouter.Settings.Basic

/-!
# Reports

An error is reported by its message, behind that of what was attempted, and in front of those of
its causes. A message that names its cause does not spare the cause.
-/

namespace ClusterRouter

def DocumentError.causes : DocumentError → List String
  | .file _ cause => [cause.message]
  | _ => []

def SettingsError.causes : SettingsError → List String
  | .unreadable _ cause => [cause.message]
  | _ => []

def RequestError.causes : RequestError → List String
  | .notStarted _ cause => [cause]
  | .kubeconfig cause => [cause.message, cause.reason]

def ReconcileError.causes : ReconcileError → List String
  | .request cause => cause.causes
  | .document cause => cause.causes
  | .artifact cause => [cause.reason]
  | .certificate _ cause => [cause.message]
  | _ => []

namespace CommandLine

/-- What a command leaves: the code that it exits with, and what it prints. -/
structure Outcome where
  exitCode : Nat
  stdout : String
deriving DecidableEq

namespace Outcome

def success (result : Value) : Outcome := ⟨0, Json.pretty result ++ "\n"⟩

/-- A failure, with the results of the commands that had run. -/
def failure (messages : List String) (results : List CommandResult := []) : Outcome :=
  let report := .map ([("failed", .bool true), ("msg", .string (": ".intercalate messages))] ++
    if results.isEmpty then []
    else [("results", .list (results.map CommandResult.toValue))])
  ⟨1, Json.pretty report ++ "\n"⟩

def ofDocumentError (attempt : List String) (e : DocumentError) : Outcome :=
  failure (attempt ++ e.message :: e.causes)

def ofSettingsError (e : SettingsError) : Outcome := failure (e.message :: e.causes)

def ofReconcileError (e : ReconcileError) : Outcome := failure (e.message :: e.causes) e.results

/-- The cluster cannot be asked at all. -/
def ofAccessError (e : RequestError) : Outcome :=
  failure ("cannot set up the cluster client" :: e.message :: e.causes)

end Outcome

end CommandLine

end ClusterRouter
