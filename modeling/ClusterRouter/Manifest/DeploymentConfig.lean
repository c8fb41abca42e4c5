import ClusterRouter.Manifest.Basic

/-!
# Deployment configurations

Environment, ports and volume mounts are those of the first container.
-/

namespace ClusterRouter.DeploymentConfig

def replicasPath : String := "spec.replicas"
def envPath : String := "spec.template.spec.containers[0].env"
def portsPath : String := "spec.template.spec.containers[0].ports"
def volumesPath : String := "spec.template.spec.volumes"
def volumeMountsPath : String := "spec.template.spec.containers[0].volumeMounts"

def envEntry (name : String) (value : Value) : Value :=
  .ofFields [("name", .string name), ("value", value)]

def envVars (document : Document) : List Value := listAt document envPath

def envValue? (document : Document) (name : String) : Option Value :=
  (findNamed? document envPath name).bind (Value.field? · "value")

def hasEnvKey (document : Document) (name : String) : Bool :=
  (placeOfName? document envPath name).isSome

def hasEnvValue (document : Document) (name : String) (value : Value) : Bool :=
  (envVars document).any fun entry => hasName name entry && entry.field? "value" == some value

def addEnvValue (name : String) (value : Value) : Editing Bool :=
  Document.append envPath (envEntry name value)

/-- Sets a variable, adding it where there is none of its name. -/
def updateEnvVar (name : String) (value : Value) : Editing Bool := do
  match placeOfName? (← get) envPath name with
  | some place => Document.put (itemPath envPath place ++ ".value") value
  | none => addEnvValue name value

/-- Removes the first variable of each name. -/
def deleteEnvVars (names : List String) : Editing Bool := editEach (removeNamed envPath) names

def replicas? (document : Document) : Option Int64 :=
  match document.lookup replicasPath with
  | .ok (some value) => value.asInt
  | _ => none

def updateReplicas (n : Int64) : Editing Bool := Document.put replicasPath (.int n)

def needsUpdateReplicas (document : Document) (n : Int64) : Bool := replicas? document != some n

def containerPorts (document : Document) : List Value := listAt document portsPath

/-- Gives a protocol to the ports that name none. -/
def defaultPortProtocol (protocol : String) : Editing Bool :=
  setPortProtocol portsPath protocol true

def volumes (document : Document) : List Value := listAt document volumesPath

def volumeMounts (document : Document) : List Value := listAt document volumeMountsPath

/-- The volume of a name, or its mount. -/
def findVolume? (document : Document) (name : String) (mounts : Bool) : Option Value :=
  findNamed? document (if mounts then volumeMountsPath else volumesPath) name

def hasVolume (document : Document) (name : String) : Bool :=
  (findVolume? document name false).isSome

def hasVolumeMount (document : Document) (name : String) : Bool :=
  (findVolume? document name true).isSome

def addVolume (volume : Value) : Editing Bool := Document.append volumesPath volume

def addVolumeMount (mount : Value) : Editing Bool := Document.append volumeMountsPath mount

/-- Removes a volume together with its mount. -/
def deleteVolume (name : String) : Editing Bool := do
  let volume ← removeNamed volumesPath name
  let mount ← removeNamed volumeMountsPath name
  pure (volume || mount)

/-- Replaces the entry of the same name, adding the new one where there is none. -/
def replaceNamed (path : String) (item : Value) : Editing Bool := do
  let document ← get
  match (entryName item).bind (placeOfName? document path) with
  | some place => Document.put (itemPath path place) item
  | none => Document.append path item

def updateVolume (volume : Value) : Editing Bool := replaceNamed volumesPath volume

def updateVolumeMount (mount : Value) : Editing Bool := replaceNamed volumeMountsPath mount

end ClusterRouter.DeploymentConfig
