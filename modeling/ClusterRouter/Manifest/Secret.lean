import ClusterRouter.Manifest.Basic

/-!
# Secrets

The keys of a secret's data may hold separators, so its entries are edited through the map that
holds them and never by a path of their own.
-/

namespace ClusterRouter.Secret

def dataPath : String := "data"

def entries (document : Document) : Fields :=
  match document.lookup dataPath with
  | .ok (some (.map fields)) => fields
  | _ => []

def find? (document : Document) (key : String) : Option Value := Fields.get? (entries document) key

def add (key : String) (value : Value) : Editing Bool := do
  let entry := Value.map [(key, value)]
  match (← get).lookup dataPath with
  | .ok (some (.map _)) => Document.update dataPath entry none none
  | .ok _ => Document.put dataPath entry
  | .error e => throw e

/-- Replaces an entry that is there. -/
def update (key : String) (value : Value) : Editing Bool := do
  match find? (← get) key with
  | some current => if current == value then pure false else add key value
  | none => pure false

def delete (key : String) : Editing Bool := Document.pop dataPath (.string key)

end ClusterRouter.Secret
