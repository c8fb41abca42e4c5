import ClusterRouter.Cluster.Access
import ClusterRouter.Cluster.Model
import ClusterRouter.Document.Persistence
import ClusterRouter.Drift.Comparison
import ClusterRouter.Edit
import ClusterRouter.Main
import ClusterRouter.Manifest.Bundle
import ClusterRouter.Manifest.DeploymentConfig
import ClusterRouter.Manifest.RoleBinding
import ClusterRouter.Manifest.Secret
import ClusterRouter.Manifest.Service
import ClusterRouter.Manifest.ServiceAccount
import ClusterRouter.Proofs.Binary64.Exact
import ClusterRouter.Proofs.CommandLine.FileEdit
import ClusterRouter.Proofs.Document.Commutation
import ClusterRouter.Proofs.Document.Congruence
import ClusterRouter.Proofs.Document.Creation
import ClusterRouter.Proofs.Document.Exactness
import ClusterRouter.Proofs.Document.Locality
import ClusterRouter.Proofs.Document.Persistence
import ClusterRouter.Proofs.Document.Places
import ClusterRouter.Proofs.Document.Presence
import ClusterRouter.Proofs.Document.Removal
import ClusterRouter.Proofs.Document.RoundTrip
import ClusterRouter.Proofs.Document.Undoing
import ClusterRouter.Proofs.Drift.Embedding
import ClusterRouter.Proofs.Drift.Enlargement
import ClusterRouter.Proofs.Drift.Erasure
import ClusterRouter.Proofs.Drift.KeySets
import ClusterRouter.Proofs.Drift.Preorder
import ClusterRouter.Proofs.Drift.Report
import ClusterRouter.Proofs.Json.Decoder
import ClusterRouter.Proofs.Manifest.Addressing
import ClusterRouter.Proofs.Manifest.Deletion
import ClusterRouter.Proofs.Manifest.Items
import ClusterRouter.Proofs.Manifest.Protocols
import ClusterRouter.Proofs.Manifest.Replicas
import ClusterRouter.Proofs.Manifest.RoleBindings
import ClusterRouter.Proofs.Manifest.Secrets
import ClusterRouter.Proofs.Manifest.Upsert
import ClusterRouter.Proofs.Path.Display
import ClusterRouter.Proofs.Path.Grammar
import ClusterRouter.Proofs.Reconcile.Attempts
import ClusterRouter.Proofs.Reconcile.Convergence
import ClusterRouter.Proofs.Reconcile.Forecast
import ClusterRouter.Proofs.Reconcile.Gating
import ClusterRouter.Proofs.Reconcile.Indifference
import ClusterRouter.Proofs.Reconcile.Modification
import ClusterRouter.Proofs.Reconcile.Removal
import ClusterRouter.Proofs.Reconcile.Replacement
import ClusterRouter.Proofs.Value.Equivalence
import ClusterRouter.Reconcile.Router
import ClusterRouter.Settings.Decoder
