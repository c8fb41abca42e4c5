import ClusterRouter.Manifest.Basic

/-!
# Bundles

A bundle holds at most one manifest of each kind, stored under its own kind and in the order of
the kinds.
-/

namespace ClusterRouter

structure Bundle where
  manifests : List Manifest := []
deriving Inhabited

namespace Bundle

def get? (bundle : Bundle) (kind : Kind) : Option Manifest :=
  bundle.manifests.find? fun manifest => manifest.kind = kind

def contains (bundle : Bundle) (kind : Kind) : Bool := (bundle.get? kind).isSome

/-- Puts a manifest in the place of its kind. -/
def insert (bundle : Bundle) (manifest : Manifest) : Bundle :=
  ⟨Kind.all.filterMap fun kind => if kind = manifest.kind then some manifest else bundle.get? kind⟩

/-- The managed objects among documents; of one kind the last document stays. -/
def ofItems (items : List Value) : Bundle :=
  items.foldl
    (fun bundle item => ((Manifest.ofDocument? (.ofRoot item)).map bundle.insert).getD bundle) {}

/-- A router exists once all its parts but the role binding do. -/
def requiredKinds : List Kind := [.deploymentConfig, .service, .secret, .serviceAccount]

def isDeployed (bundle : Bundle) : Bool := requiredKinds.all bundle.contains

end Bundle

end ClusterRouter
