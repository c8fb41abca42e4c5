import ClusterRouter.Reconcile.Drift
import ClusterRouter.Reconcile.Program
import ClusterRouter.Reconcile.Status

/-!
# Reconciling a router

A pass observes the parts of a router, renders the wanted ones, and creates, replaces or deletes
them all where that is needed:

* wanted and not deployed: every rendered part is created;
* wanted and drifted: all parts are deleted, and after a while the rendered ones are created;
* not wanted and observed in part: all parts are deleted.

A pass that only checks stops before the first change.
-/

namespace ClusterRouter

/-- An object that a router is made of. -/
structure Part where
  kind : Kind
  name : String
deriving DecidableEq

/-- The parts of a router, in the order of their kinds. -/
def Settings.parts (settings : Settings) : List Part :=
  [⟨.deploymentConfig, settings.name⟩, ⟨.service, settings.name⟩,
    ⟨.serviceAccount, settings.serviceAccount⟩, ⟨.secret, settings.secretName⟩,
    ⟨.clusterRoleBinding, settings.roleBindingName⟩]

structure Router where
  settings : Settings
  /-- The files that hold the certificates. -/
  files : FileSystem
  place : ArtifactPlace
  checkOnly : Bool := false

abbrev Reconciling := ExceptT ReconcileError Program

namespace Reconcile

def ask (request : Request) : Reconciling CommandResult :=
  ExceptT.mk (.ask request fun reply => .done (reply.mapError .request))

def settle : Reconciling Unit := ExceptT.mk (.settle (.done (.ok ())))

/-- What needs no request. -/
def decided {α : Type} (result : Except ReconcileError α) : Reconciling α :=
  ExceptT.mk (.done result)

/-- The document of a reply that found an object. -/
def observedDocument? (result : CommandResult) : Option Value :=
  if result.succeeded then result.documents.find? fun document => document.asMap.isSome else none

def observePart (part : Part) (bundle : Bundle) : Reconciling Bundle := do
  let result ← ask (.get part.kind part.name none)
  match observedDocument? result with
  | some document => pure (bundle.insert ⟨part.kind, part.name, .ofRoot document⟩)
  | none => pure bundle

/-- The parts that are there; a part that cannot be fetched counts as missing. -/
def observeParts : List Part → Bundle → Reconciling Bundle
  | [], bundle => pure bundle
  | part :: parts, bundle => do observeParts parts (← observePart part bundle)

/-- One request for each item, whatever the replies are. An item of which no request can be made
ends the asking. -/
def askEach {α : Type} (request : α → Except ReconcileError Request) :
    List α → Reconciling (List CommandResult)
  | [] => pure []
  | item :: items => do
    let result ← ask (← decided (request item))
    pure (result :: (← askEach request items))

/-- Commands may fail only with the given words. -/
def tolerating (action : PartsAction) (words : String) (results : List CommandResult) :
    Except ReconcileError (List CommandResult) :=
  if results.all fun result => result.succeeded || result.failedWith words then .ok results
  else .error (.parts action results)

/-- Applies edits to the deployment configuration, which at least one of them must change. -/
def addModifications (edits : List Edit) : EStateM ReconcileError Bundle Unit := fun bundle =>
  if edits.isEmpty then .ok () bundle
  else
    match bundle.get? .deploymentConfig with
    | none => .error (.rendering (.missing .deploymentConfig)) bundle
    | some manifest =>
      match (editEach Edit.apply edits).run manifest.document with
      | .ok true document => .ok () (bundle.insert { manifest with document })
      | .ok false document => .error .editsMadeNoChange (bundle.insert { manifest with document })
      | .error e document => .error (.document e) (bundle.insert { manifest with document })

/-- The kinds that every rendering must have. -/
def renderedKinds : List Kind := [.deploymentConfig, .service, .serviceAccount]

/-- The bundle of a rendering. -/
def bundleOf (result : CommandResult) : Except ReconcileError Bundle :=
  if !result.succeeded then
    .error (.rendering (.exited result.command result.returnCode result.stderr))
  else
    match result.decodeError, (result.results.field? "items").bind Value.asList with
    | some reason, _ => .error (.rendering (.notDecoded reason))
    | none, none => .error (.rendering .noItems)
    | none, some items =>
      let bundle := Bundle.ofItems items
      match renderedKinds.find? fun kind => !bundle.contains kind with
      | some kind => .error (.rendering (.missing kind))
      | none => .ok bundle

end Reconcile

namespace Router

open Reconcile

def observe (router : Router) : Reconciling Bundle := observeParts router.settings.parts {}

/-- The certificate with its key, and with the certificate of its authority where that exists. -/
def certificate (router : Router) : Except ReconcileError (Option Artifact) :=
  match router.settings.certFile, router.settings.keyFile with
  | some certificate, some key =>
    let authority := (router.settings.caFile.filter router.files.contains).toList
    match router.place.concat router.files "router-" ".pem" ([certificate, key] ++ authority) with
    | .ok artifact => .ok (some artifact)
    | .error e => .error (.ofCertificates e)
  | _, _ => .ok none

/-- The rendered parts with the edits of the settings. -/
def prepare (router : Router) : Reconciling Bundle := do
  let certificate ← decided router.certificate
  let options := router.settings.renderOptions (certificate.map Artifact.path)
  let bundle ← decided (bundleOf (← ask (.render router.settings.name options certificate)))
  match (addModifications router.settings.edits).run bundle with
  | .ok _ bundle => pure bundle
  | .error e _ => throw e

/-- The file that a part is created from. -/
def fileOf (router : Router) (manifest : Manifest) : Artifact :=
  router.place.ofDocument (manifest.kind.name ++ "-") manifest.document

/-- The request to create a part, once its file is made. -/
def creationOf (router : Router) (manifest : Manifest) : Except ReconcileError Request :=
  match router.place.create (router.fileOf manifest) with
  | .ok file => .ok (.create file)
  | .error e => .error (.artifact e)

/-- Creates the parts of a bundle; those that exist already are left alone. -/
def create (router : Router) (bundle : Bundle) : Reconciling (List CommandResult) := do
  let results ← askEach router.creationOf bundle.manifests
  decided (tolerating .create "already exist" results)

/-- Deletes all parts; those that do not exist are passed over. -/
def delete (router : Router) : Reconciling (List CommandResult) := do
  let results ← askEach (fun part => .ok (.delete part.kind part.name none)) router.settings.parts
  decided (tolerating .delete "not found" results)

/-- Replaces all parts by those of a bundle. -/
def update (router : Router) (bundle : Bundle) : Reconciling (List CommandResult) := do
  let deleted ← router.delete
  settle
  let created ← router.create bundle
  pure (deleted ++ created)

/-- Performs an action, or only tells of it. -/
def perform (router : Router) (action : Action) (bundle : Bundle) : Reconciling Status :=
  let state := router.settings.state
  if router.checkOnly then pure (.checked state action)
  else
    match action with
    | .create => .done state <$> router.create bundle
    | .update => .done state <$> router.update bundle
    | .delete => .done state <$> router.delete
    | .nothing => pure (.unchanged state)

/-- One pass towards the wanted state. -/
def run (router : Router) : Reconciling Status := do
  let state := router.settings.state
  let observed ← router.observe
  match state with
  | .absent =>
    if observed.manifests.isEmpty then pure (.unchanged state) else router.perform .delete {}
  | .present =>
    if observed.isDeployed then
      let rendered ← router.prepare
      if ← decided (needsUpdate router.settings observed rendered) then
        router.perform .update rendered
      else pure (.unchanged state)
    else if router.checkOnly then pure (.checked state .create)
    else router.perform .create (← router.prepare)

end Router

end ClusterRouter
