import ClusterRouter.Cluster.Request
import ClusterRouter.Text.Blank

/-!
# Failures of a reconciliation
-/

namespace ClusterRouter

/-- Why a rendering cannot be used. -/
inductive RenderingFault where
  | exited (command : String) (returnCode : Int) (stderr : String)
  | notDecoded (reason : String)
  | noItems
  | missing (kind : Kind)
deriving DecidableEq

def RenderingFault.message : RenderingFault → String
  | .exited command returnCode stderr =>
    "'" ++ command ++ "' exited with " ++ String.ofList (Text.ofInt returnCode) ++ ": " ++
      Text.trim stderr
  | .notDecoded reason => "dry-run output is not JSON: " ++ reason
  | .noItems => "dry-run output has no items"
  | .missing kind => "dry-run produced no " ++ kind.name

/-- The commands of which each part of a router needs one. -/
inductive PartsAction where
  | create
  | delete
deriving DecidableEq

def PartsAction.name : PartsAction → String
  | .create => "create"
  | .delete => "delete"

inductive ReconcileError where
  | rendering (fault : RenderingFault)
  | editsMadeNoChange
  | request (cause : RequestError)
  | parts (action : PartsAction) (results : List CommandResult)
  | document (cause : DocumentError)
  | artifact (cause : ArtifactError)
  | certificate (source : String) (cause : FileError)

namespace ReconcileError

/-- A bundle of certificates fails in reading one of them, or as any other artifact. -/
def ofCertificates : ArtifactError → ReconcileError
  | .notRead source cause => .certificate source cause
  | e => .artifact e

/-- The commands that failed, each with what it said. -/
def summary (results : List CommandResult) : String :=
  "; ".intercalate ((results.filter fun result => !result.succeeded).map fun result =>
    "'" ++ result.command ++ "': " ++ Text.trim result.stderr)

def message : ReconcileError → String
  | .rendering fault => "could not render router: " ++ fault.message
  | .editsMadeNoChange => "edits were requested but none of them changed the deployment config"
  | .request cause => cause.message
  | .parts action results => action.name ++ " failed: " ++ summary results
  | .document cause => cause.message
  | .artifact cause => cause.message
  | .certificate source cause => "cannot read certificate " ++ source ++ ": " ++ cause.message

/-- The results of the commands that had run when parts failed. -/
def results : ReconcileError → List CommandResult
  | .parts _ results => results
  | _ => []

end ReconcileError

end ClusterRouter
