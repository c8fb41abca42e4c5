/-!
# Kinds of managed objects

The five kinds of objects that make up a router, in the order in which they are created.
-/

namespace ClusterRouter

inductive Kind where
  | deploymentConfig
  | service
  | serviceAccount
  | secret
  | clusterRoleBinding
deriving DecidableEq, Inhabited

namespace Kind

def all : List Kind := [.deploymentConfig, .service, .serviceAccount, .secret, .clusterRoleBinding]

/-- The text of the field `kind` in documents of this kind. -/
def name : Kind → String
  | .deploymentConfig => "DeploymentConfig"
  | .service => "Service"
  | .serviceAccount => "ServiceAccount"
  | .secret => "Secret"
  | .clusterRoleBinding => "ClusterRoleBinding"

/-- The word for this kind on command lines. -/
def commandName : Kind → String
  | .deploymentConfig => "dc"
  | .service => "svc"
  | .serviceAccount => "sa"
  | .secret => "secret"
  | .clusterRoleBinding => "clusterrolebinding"

def ofName? (text : String) : Option Kind := all.find? fun kind => kind.name = text

end Kind

end ClusterRouter
