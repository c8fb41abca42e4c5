import ClusterRouter.Manifest.Basic

/-!
# Service accounts

A service account refers to secrets by their names.
-/

namespace ClusterRouter.ServiceAccount

def secretsPath : String := "secrets"
def imagePullSecretsPath : String := "imagePullSecrets"

def reference (name : String) : Value := .ofFields [("name", .string name)]

def secrets (document : Document) : List Value := listAt document secretsPath

def imagePullSecrets (document : Document) : List Value := listAt document imagePullSecretsPath

def findSecret? (document : Document) (name : String) : Option Value :=
  findNamed? document secretsPath name

def findImagePullSecret? (document : Document) (name : String) : Option Value :=
  findNamed? document imagePullSecretsPath name

def addSecret (name : String) : Editing Bool := Document.append secretsPath (reference name)

def addImagePullSecret (name : String) : Editing Bool :=
  Document.append imagePullSecretsPath (reference name)

def deleteSecret (name : String) : Editing Bool := removeNamed secretsPath name

def deleteImagePullSecret (name : String) : Editing Bool := removeNamed imagePullSecretsPath name

end ClusterRouter.ServiceAccount
