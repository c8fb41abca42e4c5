import ClusterRouter.Drift.Comparison
import ClusterRouter.Manifest.Bundle
import ClusterRouter.Manifest.DeploymentConfig
import ClusterRouter.Manifest.Service
import ClusterRouter.Reconcile.Error
import ClusterRouter.Settings.Basic

/-!
# Drift of a router

A deployed router has drifted when one of its observed parts differs from the rendered one in what
a rendering can tell. What the cluster or its controllers fill in is left out of the comparison or
taken over into the rendered part first.
-/

namespace ClusterRouter

namespace SkipSet

/-- Fields that the token controllers fill in. -/
def tokens : SkipSet := serverPopulated.extend ["secrets", "imagePullSecrets"]

/-- Fields of a service that the cluster allocates. -/
def allocated : SkipSet :=
  serverPopulated.extend ["portalIP", "clusterIP", "sessionAffinity", "type"]

/-- Fields of a deployment configuration that have defaults in the cluster. -/
def defaulted : SkipSet :=
  serverPopulated.extend ["dnsPolicy", "terminationGracePeriodSeconds", "restartPolicy",
    "timeoutSeconds", "livenessProbe", "readinessProbe", "terminationMessagePath", "hostPort",
    "defaultMode"]

end SkipSet

namespace Reconcile

def statsPassword : String := "STATS_PASSWORD"

def defaultProtocol : String := "TCP"

/-- The password of the statistics is generated anew at each rendering. -/
def generatesPassword (settings : Settings) : Bool :=
  (settings.statsPassword.map String.isEmpty).getD true

/-- Takes over a generated password that is in use already. -/
def keepPassword (settings : Settings) (live : Document) : Editing Bool := do
  if generatesPassword settings && DeploymentConfig.hasEnvKey (← get) statsPassword then
    match DeploymentConfig.envValue? live statsPassword with
    | some password => DeploymentConfig.updateEnvVar statsPassword password
    | none => pure false
  else pure false

/-- A rendered deployment configuration as the cluster would show it. -/
def alignDeployment (settings : Settings) (live : Document) : Editing Unit := do
  discard (keepPassword settings live)
  discard (DeploymentConfig.defaultPortProtocol defaultProtocol)

/-- A rendered service as the cluster would show it. -/
def alignService : Editing Unit := discard (Service.forcePortProtocol defaultProtocol)

/-- The document that edits lead to. -/
def edited (edits : Editing Unit) (document : Document) : Except ReconcileError Document :=
  match edits.run document with
  | .ok _ document => .ok document
  | .error e _ => .error (.document e)

def required (bundle : Bundle) (kind : Kind) : Except ReconcileError Manifest :=
  (bundle.get? kind).elim (.error (.rendering (.missing kind))) .ok

def drifted (skip : SkipSet) (desired observed : Document) : Bool :=
  !Drift.agree skip desired.root observed.root

/-- The certificate secret is compared only if one was rendered. -/
def secretDrifted (rendered : Bundle) (live : Document) : Bool :=
  (rendered.get? .secret).any fun secret => drifted SkipSet.tokens secret.document live

/-- The observed parts have drifted from the rendered ones; a missing part counts as drift. -/
def needsUpdate (settings : Settings) (observed rendered : Bundle) :
    Except ReconcileError Bool :=
  match observed.get? .deploymentConfig, observed.get? .service, observed.get? .serviceAccount,
      observed.get? .secret with
  | some deployment, some service, some account, some secret => do
    let wantedAccount ← required rendered .serviceAccount
    if drifted SkipSet.tokens wantedAccount.document account.document then return true
    if secretDrifted rendered secret.document then return true
    let wantedService ← edited alignService (← required rendered .service).document
    if drifted SkipSet.allocated wantedService service.document then return true
    let wantedDeployment ← edited (alignDeployment settings deployment.document)
      (← required rendered .deploymentConfig).document
    return drifted SkipSet.defaulted wantedDeployment deployment.document
  | _, _, _, _ => .ok true

end Reconcile

end ClusterRouter
