import ClusterRouter.Manifest.Basic

/-!
# Services
-/

namespace ClusterRouter.Service

def portsPath : String := "spec.ports"
def clusterIpPath : String := "spec.clusterIP"
def portalIpPath : String := "spec.portalIP"

def ports (document : Document) : List Value := listAt document portsPath

def addPorts (ports : List Value) : Editing Bool := editEach (Document.append portsPath) ports

/-- The first entry of a port number. -/
def findPort? (document : Document) (port : Int64) : Option Value :=
  (ports document).find? fun entry => (entry.field? "port").bind Value.asInt == some port

/-- Removes the first entry of each port number. -/
def deletePorts (numbers : List Int64) : Editing Bool :=
  editEach
    (fun port => do
      match findPort? (← get) port with
      | some entry => Document.pop portsPath entry
      | none => pure false)
    numbers

/-- Sets the protocol of every port. -/
def forcePortProtocol (protocol : String) : Editing Bool :=
  setPortProtocol portsPath protocol false

def addClusterIp (ip : String) : Editing Bool := Document.put clusterIpPath (.string ip)

def addPortalIp (ip : String) : Editing Bool := Document.put portalIpPath (.string ip)

end ClusterRouter.Service
