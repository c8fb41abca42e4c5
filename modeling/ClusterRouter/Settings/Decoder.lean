import ClusterRouter.Settings.Basic
import ClusterRouter.Yaml.Typed

/-!
# Settings from text

Settings are written as YAML. A parameter that does not exist is refused; an edit may carry further
fields, which are left out.
-/

namespace ClusterRouter

open Yaml

namespace Edit

def fieldNames : List String := ["action", "key", "value", "index", "curr_value"]

/-- An edit whose required arguments may still be missing. -/
structure Draft where
  action : Option EditAction := none
  key : Option String := none
  value : Value := .null
  index : Option Int64 := none
  current : Option Value := none
deriving Inhabited

def Draft.finish? (draft : Draft) : Option Edit := do
  let action ← draft.action
  let key ← draft.key
  pure { action, key, value := draft.value, index := draft.index, current := draft.current }

def readField (stream : Stream) (depth : Nat) (field : String) (node : Node) (draft : Draft) :
    Decoding Draft :=
  match field with
  | "action" => do
    pure { draft with action := some (← liftM (EditAction.ofName? (← stream.word node))) }
  | "key" => do pure { draft with key := some (← stream.text node) }
  | "value" => do pure { draft with value := ← stream.nodeValue depth node }
  | "index" => do pure { draft with index := ← stream.optional stream.int node }
  | "curr_value" => do
    pure { draft with current := ← stream.optional (stream.nodeValue depth) node }
  | _ => failure

/-- An edit in YAML. -/
def ofNode (stream : Stream) (depth : Nat) (node : Node) : Decoding Edit := do
  let draft ← stream.record fieldNames false (readField stream) depth {} node
  liftM draft.finish?

/-- The action of an edit in JSON: its name, alone or as the key of null. -/
def actionOf? : Value → Option EditAction
  | .string name => EditAction.ofName? name
  | .map [(name, .null)] => EditAction.ofName? name
  | _ => none

/-- An argument that may be missing or null. -/
def optionalField? {α : Type} (read : Value → Option α) : Option Value → Option (Option α)
  | none | some .null => some none
  | some value => (read value).map some

/-- An edit in JSON: a map, or a list of the fields in their order. -/
def ofValue? (value : Value) : Option Edit := do
  let fields ←
    match value with
    | .map fields => some fields
    | .list items => if items.length ≤ fieldNames.length then some (fieldNames.zip items) else none
    | _ => none
  let action ← (fields.lookup "action").bind actionOf?
  let key ← (fields.lookup "key").bind Value.asString
  let index ← optionalField? Value.asInt (fields.lookup "index")
  let current ← optionalField? some (fields.lookup "curr_value")
  pure { action, key, value := (fields.lookup "value").getD .null, index, current }

end Edit

namespace Settings

def fieldNames : List String :=
  match (toValue {}).asMap with
  | some fields => Fields.keys fields
  | none => []

def readField (stream : Stream) (depth : Nat) (field : String) (node : Node)
    (settings : Settings) : Decoding Settings :=
  let optionalText : Decoding (Option String) := stream.optional stream.text node
  match field with
  | "state" => do
    pure { settings with state := ← liftM (State.parse? (← stream.word node)) }
  | "name" => do pure { settings with name := ← stream.text node }
  | "namespace" => do pure { settings with project := ← stream.text node }
  | "kubeconfig" => do pure { settings with kubeconfig := ← stream.text node }
  | "cert_file" => do pure { settings with certFile := ← optionalText }
  | "key_file" => do pure { settings with keyFile := ← optionalText }
  | "cacert_file" => do pure { settings with caFile := ← optionalText }
  | "images" => do pure { settings with images := ← optionalText }
  | "latest_images" => do pure { settings with latestImages := ← stream.flag node }
  | "labels" => do
    let labels ← stream.optional (stream.list depth fun _ => stream.text) node
    pure { settings with labels }
  | "ports" => do
    pure { settings with ports := ← stream.list depth (fun _ => stream.text) node }
  | "replicas" => do pure { settings with replicas := ← stream.int node }
  | "selector" => do pure { settings with selector := ← optionalText }
  | "service_account" => do pure { settings with serviceAccount := ← stream.text node }
  | "router_type" => do pure { settings with routerType := ← optionalText }
  | "host_network" => do pure { settings with hostNetwork := ← stream.flag node }
  | "external_host" => do pure { settings with externalHost := ← optionalText }
  | "external_host_vserver" => do pure { settings with externalHostVserver := ← optionalText }
  | "external_host_insecure" => do
    pure { settings with externalHostInsecure := ← stream.flag node }
  | "external_host_partition_path" => do
    pure { settings with externalHostPartitionPath := ← optionalText }
  | "external_host_username" => do pure { settings with externalHostUsername := ← optionalText }
  | "external_host_password" => do pure { settings with externalHostPassword := ← optionalText }
  | "external_host_private_key" => do
    pure { settings with externalHostPrivateKey := ← optionalText }
  | "expose_metrics" => do pure { settings with exposeMetrics := ← stream.flag node }
  | "metrics_image" => do pure { settings with metricsImage := ← optionalText }
  | "stats_user" => do pure { settings with statsUser := ← optionalText }
  | "stats_password" => do pure { settings with statsPassword := ← optionalText }
  | "stats_port" => do pure { settings with statsPort := ← stream.int node }
  | "edits" => do
    pure { settings with edits := ← stream.list depth (Edit.ofNode stream) node }
  | _ => failure

/-- The settings of a text; what it does not give has its default. -/
def decode? (text : String) : Option Settings :=
  decodeTyped? text {} fun stream node =>
    stream.record fieldNames true (readField stream) nestingLimit {} node

/-- The settings of a file, which must fit together. -/
def load (files : FileSystem) (file : String) : Except SettingsError Settings := do
  let text ← (files.readText file).mapError (.unreadable file)
  let settings ← (decode? text).elim (.error (.unparsable file)) .ok
  settings.validate
  pure settings

end Settings

end ClusterRouter
