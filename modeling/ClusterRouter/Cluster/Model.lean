import ClusterRouter.Cluster.Request
import ClusterRouter.Manifest.Basic
import ClusterRouter.Yaml.Decoder

/-!
# A cluster that keeps objects

At most one object of each kind is live. An object is found by its kind and name, created once and
deleted by its kind. A rendering always gives the same items.
-/

namespace ClusterRouter

structure Cluster where
  live : Kind → Option Value
  items : List Value

namespace Cluster

def ofObjects (objects : List Value) (items : List Value) : Cluster where
  live kind := objects.reverse.find? fun object => Manifest.kindOf? object = some kind
  items := items

def put (cluster : Cluster) (kind : Kind) (object : Option Value) : Cluster :=
  { cluster with live := fun k => if k = kind then object else cluster.live k }

def succeeded (command : String) (results : Value) : CommandResult := { command, results }

def failed (command stderr : String) : CommandResult :=
  { returnCode := 1, command, stderr, results := .map [] }

def notFound (kind : Kind) (name : String) : String :=
  kind.commandName ++ " \"" ++ name ++ "\" not found"

def alreadyExists (kind : Kind) (name : String) : String :=
  kind.commandName ++ " \"" ++ name ++ "\" already exists\n"

def render (cluster : Cluster) (name : String) : CommandResult :=
  succeeded ("oadm router " ++ name)
    (.map [("items", .list cluster.items), ("kind", .string "List")])

def get (cluster : Cluster) (kind : Kind) (name : String) : CommandResult :=
  let command := "oc get " ++ kind.commandName ++ " " ++ name
  match cluster.live kind with
  | some object =>
    if Manifest.nameOf object = name then (succeeded command object).asList
    else failed command (notFound kind name)
  | none => failed command (notFound kind name)

/-- The object that a file holds. -/
def objectOf? (file : Artifact) : Option Value :=
  (String.fromUTF8? file.contents).bind Yaml.decode?

def createObject (cluster : Cluster) (kind : Kind) (object : Value) : CommandResult × Cluster :=
  let command := "oc create " ++ kind.commandName
  match cluster.live kind with
  | some _ => (failed command (alreadyExists kind (Manifest.nameOf object)), cluster)
  | none => (succeeded command .null, cluster.put kind (some object))

def create (cluster : Cluster) (file : Artifact) : CommandResult × Cluster :=
  match (objectOf? file).bind fun object => (Manifest.kindOf? object).map (object, ·) with
  | some (object, kind) => cluster.createObject kind object
  | none => (failed "oc create" "no object of a known kind", cluster)

def delete (cluster : Cluster) (kind : Kind) (name : String) : CommandResult × Cluster :=
  let command := "oc delete " ++ kind.commandName ++ " " ++ name
  match cluster.live kind with
  | some _ => (succeeded command .null, cluster.put kind none)
  | none => (failed command (notFound kind name ++ "\n"), cluster)

/-- The answer to a request, and the cluster after it. -/
def respond (cluster : Cluster) : Request → Reply × Cluster
  | .render name _ _ => (.ok (cluster.render name), cluster)
  | .get kind name _ => (.ok (cluster.get kind name), cluster)
  | .create file => Prod.map .ok id (cluster.create file)
  | .delete kind name _ => Prod.map .ok id (cluster.delete kind name)
  | .replace .. => (.ok (failed "oc replace" "not supported"), cluster)
  | .process .. => (.ok (failed "oc process" "not supported"), cluster)

end Cluster

end ClusterRouter
