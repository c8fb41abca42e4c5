import ClusterRouter.Edit
import ClusterRouter.Storage.FileSystem

/-!
# Settings of a router

All parameters of a router with their defaults, the names of its parts, and the options by which
its rendering is asked for.
-/

namespace ClusterRouter

/-- Whether a router shall be there. -/
inductive State where
  | present
  | absent
deriving DecidableEq, Inhabited

namespace State

def name : State → String
  | .present => "present"
  | .absent => "absent"

def parse? (text : String) : Option State :=
  [State.present, .absent].find? fun state => state.name = text

/-- What is said of a text that names no state. -/
def unknownMessage (text : String) : String := "unknown state '" ++ text ++ "'"

end State

structure Settings where
  state : State := .present
  name : String := "router"
  project : String := "default"
  kubeconfig : String := "/etc/origin/master/admin.kubeconfig"
  certFile : Option String := none
  keyFile : Option String := none
  caFile : Option String := none
  images : Option String := none
  latestImages : Bool := false
  labels : Option (List String) := none
  ports : List String := ["80:80", "443:443"]
  replicas : Int64 := 1
  selector : Option String := none
  serviceAccount : String := "router"
  routerType : Option String := none
  hostNetwork : Bool := true
  externalHost : Option String := none
  externalHostVserver : Option String := none
  externalHostInsecure : Bool := false
  externalHostPartitionPath : Option String := none
  externalHostUsername : Option String := none
  externalHostPassword : Option String := none
  externalHostPrivateKey : Option String := none
  exposeMetrics : Bool := false
  metricsImage : Option String := none
  statsUser : Option String := none
  statsPassword : Option String := none
  statsPort : Int64 := 1936
  edits : List Edit := []
deriving Inhabited

inductive InvalidSettings where
  | imagesAndRouterType
  | emptyName
  | certificateWithoutKey
deriving DecidableEq

inductive SettingsError where
  | unreadable (file : String) (cause : FileError)
  | unparsable (file : String)
  | invalid (reason : InvalidSettings)
deriving DecidableEq

def InvalidSettings.message : InvalidSettings → String
  | .imagesAndRouterType => "parameters are mutually exclusive: router_type|images"
  | .emptyName => "name must not be empty"
  | .certificateWithoutKey => "cert_file and key_file must be given together"

def SettingsError.message : SettingsError → String
  | .unreadable file cause => "cannot read " ++ file ++ ": " ++ cause.message
  | .unparsable file => "cannot parse " ++ file
  | .invalid reason => "invalid router parameters: " ++ reason.message

namespace Settings

def validate (settings : Settings) : Except SettingsError Unit :=
  if settings.images.isSome && settings.routerType.isSome then
    .error (.invalid .imagesAndRouterType)
  else if settings.name.isEmpty then .error (.invalid .emptyName)
  else if settings.certFile.isSome != settings.keyFile.isSome then
    .error (.invalid .certificateWithoutKey)
  else .ok ()

def routerTypeOrDefault (settings : Settings) : String :=
  settings.routerType.getD "haproxy-router"

/-- The name of the secret that holds the certificate. -/
def secretName (settings : Settings) : String := settings.name ++ "-certs"

def roleBindingName (settings : Settings) : String := "router-" ++ settings.name ++ "-role"

def flagText (b : Bool) : String := if b then "true" else "false"

def option (key text : String) : String := "--" ++ key ++ "=" ++ text

/-- An option with a text is given only where the text is not empty. -/
def textOption (key : String) (text : Option String) : List String :=
  match text with
  | some text => if text.isEmpty then [] else [option key text]
  | none => []

def flagOption (key : String) (b : Bool) : List String := [option key (flagText b)]

def intOption (key : String) (n : Int64) : List String :=
  [option key (String.ofList (Text.ofInt64 n))]

/-- The options of a rendering. Certificate files, router type and edits are not among them; the
certificate is given as one file. -/
def renderOptions (settings : Settings) (certificate : Option String) : List String :=
  textOption "default-cert" certificate ++
  textOption "images" settings.images ++
  flagOption "latest-images" settings.latestImages ++
  textOption "labels" (settings.labels.map (",".intercalate ·)) ++
  textOption "ports" (some (",".intercalate settings.ports)) ++
  intOption "replicas" settings.replicas ++
  textOption "selector" settings.selector ++
  textOption "service-account" (some settings.serviceAccount) ++
  flagOption "host-network" settings.hostNetwork ++
  textOption "external-host" settings.externalHost ++
  textOption "external-host-vserver" settings.externalHostVserver ++
  flagOption "external-host-insecure" settings.externalHostInsecure ++
  textOption "external-host-partition-path" settings.externalHostPartitionPath ++
  textOption "external-host-username" settings.externalHostUsername ++
  textOption "external-host-password" settings.externalHostPassword ++
  textOption "external-host-private-key" settings.externalHostPrivateKey ++
  flagOption "expose-metrics" settings.exposeMetrics ++
  textOption "metrics-image" settings.metricsImage ++
  textOption "stats-user" settings.statsUser ++
  textOption "stats-password" settings.statsPassword ++
  intOption "stats-port" settings.statsPort

def optionalText (text : Option String) : Value := text.elim .null .string

def textList (texts : List String) : Value := .list (texts.map .string)

/-- All parameters as a map. -/
def toValue (settings : Settings) : Value :=
  .map [
    ("state", .string settings.state.name),
    ("name", .string settings.name),
    ("namespace", .string settings.project),
    ("kubeconfig", .string settings.kubeconfig),
    ("cert_file", optionalText settings.certFile),
    ("key_file", optionalText settings.keyFile),
    ("cacert_file", optionalText settings.caFile),
    ("images", optionalText settings.images),
    ("latest_images", .bool settings.latestImages),
    ("labels", settings.labels.elim .null textList),
    ("ports", textList settings.ports),
    ("replicas", .int settings.replicas),
    ("selector", optionalText settings.selector),
    ("service_account", .string settings.serviceAccount),
    ("router_type", optionalText settings.routerType),
    ("host_network", .bool settings.hostNetwork),
    ("external_host", optionalText settings.externalHost),
    ("external_host_vserver", optionalText settings.externalHostVserver),
    ("external_host_insecure", .bool settings.externalHostInsecure),
    ("external_host_partition_path", optionalText settings.externalHostPartitionPath),
    ("external_host_username", optionalText settings.externalHostUsername),
    ("external_host_password", optionalText settings.externalHostPassword),
    ("external_host_private_key", optionalText settings.externalHostPrivateKey),
    ("expose_metrics", .bool settings.exposeMetrics),
    ("metrics_image", optionalText settings.metricsImage),
    ("stats_user", optionalText settings.statsUser),
    ("stats_password", optionalText settings.statsPassword),
    ("stats_port", .int settings.statsPort),
    ("edits", .list (settings.edits.map Edit.toValue))]

/-- All parameters have their defaults; names of files are compared step by step. -/
def isDefault (settings : Settings) : Bool :=
  let default : Settings := {}
  sameName settings.kubeconfig default.kubeconfig &&
    { settings with kubeconfig := default.kubeconfig }.toValue == default.toValue

end Settings

end ClusterRouter
