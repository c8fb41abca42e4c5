import ClusterRouter.Cluster.CommandResult
import ClusterRouter.Manifest.Kind
import ClusterRouter.Storage.Artifact

/-!
# Requests to a cluster

A cluster answers each request with the result of a command, unless no command could be run.
-/

namespace ClusterRouter

inductive Request where
  /-- Renders the objects of a router without creating them. -/
  | render (name : String) (options : List String) (certificate : Option Artifact)
  | get (kind : Kind) (name : String) (selector : Option String)
  | create (file : Artifact)
  | delete (kind : Kind) (name : String) (selector : Option String)
  | replace (file : Artifact) (force : Bool)
  | process (template : String) (parameters : List (String × String))

inductive RequestError where
  | notStarted (command cause : String)
  | kubeconfig (cause : ArtifactError)
deriving DecidableEq

def RequestError.message : RequestError → String
  | .notStarted command cause => "failed to execute '" ++ command ++ "': " ++ cause
  | .kubeconfig cause => "cannot prepare kubeconfig: " ++ cause.message

abbrev Reply := Except RequestError CommandResult

end ClusterRouter
