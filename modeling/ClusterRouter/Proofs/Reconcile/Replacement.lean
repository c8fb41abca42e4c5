import ClusterRouter.Proofs.Reconcile.Convergence

/-!
# What a replacement leaves

A replacement deletes all parts of a router and creates those that were rendered. These need not be
all: the secret is rendered with certificates only, and the role binding may be missing as well. So
nothing that was live before is live after a replacement by itself, and what is live is told by the
files of the rendered documents alone, whatever kinds and names these state.
-/

namespace ClusterRouter

open Program (Exchange)

/-- A faithful party that makes nothing live of a file that holds no object of a known kind. -/
structure Frugal {σ : Type} (respond : σ → Request → Reply × σ) (view : σ → Cluster) : Prop extends
    Faithful respond view where
  createUnknown : ∀ s file, (Cluster.objectOf? file).bind Manifest.kindOf? = none →
    view (respond s (.create file)).2 = view s

/-- The object that the file of a manifest holds, if it is one of this kind. -/
def Manifest.held? (manifest : Manifest) (kind : Kind) : Option Value :=
  manifest.stored?.filter fun object ↦ Manifest.kindOf? object = some kind

/-- The first object of a kind that the files of a bundle hold. -/
def Bundle.held? (bundle : Bundle) (kind : Kind) : Option Value :=
  bundle.manifests.findSome? fun manifest ↦ manifest.held? kind

theorem Manifest.isSome_held?_iff {manifest : Manifest} {kind : Kind} :
    (manifest.held? kind).isSome = true ↔
      manifest.stored?.bind Manifest.kindOf? = some kind := by
  rw [held?]
  cases manifest.stored? with
  | none => simp
  | some object => simp [Option.filter_some, apply_ite Option.isSome]

theorem Bundle.isSome_held?_iff {bundle : Bundle} {kind : Kind} :
    (bundle.held? kind).isSome = true ↔
      ∃ manifest ∈ bundle.manifests, manifest.stored?.bind Manifest.kindOf? = some kind := by
  simp only [held?, List.findSome?_isSome_iff, Manifest.isSome_held?_iff]

namespace Cluster

/-- The cluster that keeps objects is frugal. -/
theorem frugal_respond : Frugal Cluster.respond id where
  toFaithful := faithful_respond
  createUnknown cluster file hunknown := by
    change (cluster.create file).2 = cluster
    have hnone : ((objectOf? file).bind fun object ↦
        (Manifest.kindOf? object).map (object, ·)) = none := by
      rw [Option.bind_eq_none_iff] at hunknown ⊢
      exact fun object hobject ↦ Option.map_eq_none_iff.mpr (hunknown object hobject)
    rw [create, hnone]

/-- The kinds of which an object is live. -/
def kinds (cluster : Cluster) : List Kind := Kind.all.filter fun kind ↦ (cluster.live kind).isSome

/-- Creating a manifest makes the object in its file live, unless its kind is or is not known. -/
def received (cluster : Cluster) (manifest : Manifest) : Cluster :=
  match manifest.stored? with
  | none => cluster
  | some object =>
    match Manifest.kindOf? object with
    | none => cluster
    | some kind => if (cluster.live kind).isSome then cluster else cluster.put kind (some object)

theorem live_received (cluster : Cluster) (manifest : Manifest) (kind : Kind) :
    (cluster.received manifest).live kind = (cluster.live kind).or (manifest.held? kind) := by
  rw [received, Manifest.held?]
  cases manifest.stored? with
  | none => exact Option.or_none.symm
  | some object =>
    cases hkind : Manifest.kindOf? object with
    | none => simp [Option.filter_some, hkind]
    | some stated =>
      by_cases hstated : stated = kind
      · subst hstated
        cases hlive : cluster.live stated <;> simp [hlive, live_put, Option.filter_some, hkind]
      · have hother : (cluster.put stated (some object)).live kind = cluster.live kind :=
          if_neg (Ne.symm hstated)
        simp [Option.filter_some, hkind, hstated, apply_ite Cluster.live, ite_apply, hother]

/-- Creating all manifests leaves what is live and adds what their files hold. -/
theorem live_foldl_received (cluster : Cluster) (manifests : List Manifest) (kind : Kind) :
    (manifests.foldl received cluster).live kind =
      (cluster.live kind).or (Bundle.held? ⟨manifests⟩ kind) := by
  induction manifests generalizing cluster with
  | nil => exact Option.or_none.symm
  | cons manifest manifests ih =>
    have hcons : Bundle.held? ⟨manifest :: manifests⟩ kind =
        (manifest.held? kind).or (Bundle.held? ⟨manifests⟩ kind) := by
      rw [Bundle.held?, List.findSome?_cons]
      cases manifest.held? kind <;> rfl
    rw [List.foldl_cons, ih, live_received, hcons, Option.or_assoc]

end Cluster

namespace Reconcile

variable {σ α : Type} {respond : σ → Request → Reply × σ} {view : σ → Cluster} {s after : σ}
  {exchanges : List Exchange} {make : α → Except ReconcileError Request} {request : α → Request}
  {effect : Cluster → α → Cluster}

/-- Where each command has its effect whatever is answered, a row of them has all the effects. -/
theorem view_of_askEach (hmakes : Makes make request)
    (heffect : ∀ s item, view (respond s (request item)).2 = effect (view s) item)
    {items : List α} {results : List CommandResult}
    (h : Runs respond (askEach make items) s exchanges after (.ok results)) :
    view after = items.foldl effect (view s) := by
  induction items generalizing s exchanges results with
  | nil =>
    obtain ⟨-, rfl, -⟩ := runs_pure_iff.mp h
    rfl
  | cons item items ih =>
    cases hmake : make item with
    | error e =>
      obtain ⟨-, -, hnot⟩ := h.unique (runs_askEach_of_error hmake items s)
      contradiction
    | ok made =>
      obtain rfl := hmakes item made hmake
      rcases (runs_askEach_cons_iff hmake).mp h with
        ⟨cause, -, -, -, hnot⟩ | ⟨reply, rest, -, ⟨found, hrest, hfound⟩, -⟩
      · contradiction
      · cases found with
        | error e => contradiction
        | ok replies => rw [ih hrest, heffect, List.foldl_cons]

theorem view_of_attempt (hmakes : Makes make request)
    (heffect : ∀ s item, view (respond s (request item)).2 = effect (view s) item)
    {action : PartsAction} {words : String} {items : List α} {results : List CommandResult}
    (h : Runs respond (attempt action words make items) s exchanges after (.ok results)) :
    view after = items.foldl effect (view s) := by
  rcases runs_bind_iff.mp h with ⟨e, -, hnot⟩ | ⟨replies, _, middle, _, hask, hdecided, -⟩
  · contradiction
  obtain ⟨-, rfl, -⟩ := runs_decided_iff.mp hdecided
  exact view_of_askEach hmakes heffect hask

end Reconcile

namespace Router

open Reconcile

variable {σ : Type} {respond : σ → Request → Reply × σ} {view : σ → Cluster} {router : Router}
  {s after : σ} {exchanges : List Exchange} {rendered : Bundle}

theorem view_of_deletion (hfaithful : Faithful respond view) (s : σ) (part : Part) :
    view (respond s (deletion part)).2 = (view s).deleted part := by
  obtain ⟨result, after, hrespond, hafter, -⟩ := answers_deletion hfaithful part s
  rw [hrespond, hafter]

theorem view_of_creation (hfrugal : Frugal respond view) (router : Router) (s : σ)
    (manifest : Manifest) :
    view (respond s (router.creation manifest)).2 = (view s).received manifest := by
  have hobject : Cluster.objectOf? (router.fileOf manifest) = manifest.stored? :=
    Cluster.objectOf?_ofDocument _ _ _
  have hunknown (h : manifest.stored?.bind Manifest.kindOf? = none) :
      view (respond s (router.creation manifest)).2 = view s :=
    hfrugal.createUnknown s _ (by rw [hobject, h])
  rw [Cluster.received]
  cases hstored : manifest.stored? with
  | none => exact hunknown (by rw [hstored, Option.bind_none])
  | some object =>
    cases hkind : Manifest.kindOf? object with
    | none =>
      simp only [hkind]
      exact hunknown (by rw [hstored, Option.bind_some, hkind])
    | some kind =>
      cases hlive : (view s).live kind with
      | none =>
        obtain ⟨result, after, hrespond, hafter, -⟩ :=
          hfrugal.createFree s _ object kind (hobject.trans hstored) hkind hlive
        have hrespond : respond s (router.creation manifest) = (.ok result, after) := hrespond
        simp [hrespond, hafter, hkind, hlive]
      | some old =>
        obtain ⟨result, after, hrespond, hafter, -⟩ :=
          hfrugal.createTaken s _ object kind (hobject.trans hstored) hkind (by simp [hlive])
        have hrespond : respond s (router.creation manifest) = (.ok result, after) := hrespond
        simp [hrespond, hafter, hkind, hlive]

/-- After a replacement that succeeds, the objects in the created files are live and nothing else. -/
theorem live_of_update (hfrugal : Frugal respond view) {results : List CommandResult}
    (h : Runs respond (router.update rendered) s exchanges after (.ok results)) (kind : Kind) :
    (view after).live kind = rendered.held? kind := by
  rcases runs_update_iff.mp h with
    ⟨e, -, hnot⟩ | ⟨replies, deleted, middle, created, found, hdelete, hcreate, -, hfound⟩
  · contradiction
  cases found with
  | error e => contradiction
  | ok more =>
    have hdeleted : view middle = router.settings.parts.foldl Cluster.deleted (view s) :=
      view_of_attempt makes_deletion (view_of_deletion hfrugal.toFaithful) hdelete
    have hcreated : view after = rendered.manifests.foldl Cluster.received (view middle) :=
      view_of_attempt router.makes_creation (view_of_creation hfrugal router) hcreate
    rw [hcreated, Cluster.live_foldl_received, hdeleted, live_deleted, Option.none_or]

/-! ### Passes that replace -/

/-- The next pass finds all required parts, decides to replace the router by what it has prepared,
and succeeds. -/
structure Replaces (respond : σ → Request → Reply × σ) (router : Router) (s : σ)
    (rendered : Bundle) : Prop where
  state : router.settings.state = .present
  performs : router.checkOnly = false
  decides : ∃ seen observed, Prepared respond router s seen observed rendered ∧
    observed.isDeployed = true ∧ needsUpdate router.settings observed rendered = .ok true
  succeeds : ∃ status, (router.pass respond s).result = .ok status

/-- A pass that replaces ends with a replacement. -/
theorem Replaces.exists_update (h : Replaces respond router s rendered) :
    ∃ start exchanges results, Runs respond (router.update rendered) start exchanges
      (router.pass respond s).state (.ok results) := by
  obtain ⟨seen, observed, hprepared, hdeployed, hneeds⟩ := h.decides
  obtain @⟨first, second, middle, start, _, _, hobserve, hprepare⟩ := hprepared
  obtain ⟨status, hstatus⟩ := h.succeeds
  obtain ⟨updated, after, found, hupdate⟩ : ∃ updated after found,
      Runs respond (router.update rendered) start updated after found :=
    ⟨_, _, _, runs_of_run _ start⟩
  have hperform : Runs respond (router.perform .update rendered) start updated after
      (found.map (.done router.settings.state)) := by
    rw [perform_update h.performs]
    exact runs_map_iff.mpr ⟨found, hupdate, rfl⟩
  have hrun := runs_run_of_needs h.state hdeployed hobserve hprepare hneeds hperform
  obtain ⟨-, hafter, hresult⟩ := (runs_of_run router.run s).unique hrun
  obtain ⟨results, rfl, -⟩ := exists_of_map_done (hresult.symm.trans hstatus)
  exact ⟨start, updated, results, by rwa [pass, hafter]⟩

/-- What a pass that replaces a router leaves of it in the state `after`. -/
structure Leaves (respond : σ → Request → Reply × σ) (view : σ → Cluster) (router : Router)
    (rendered : Bundle) (after : σ) : Prop where
  /-- Of each kind, the first object that the created files hold is live. -/
  live : ∀ kind, (view after).live kind = rendered.held? kind
  /-- So exactly those kinds are live that the created files state. -/
  kinds : ∀ kind, ((view after).live kind).isSome = true ↔
    ∃ manifest ∈ rendered.manifests, manifest.stored?.bind Manifest.kindOf? = some kind
  /-- The router is still deployed exactly if the object of each required kind is that of its
  part. -/
  deployed : ∃ exchanges last observed,
    Runs respond router.observe after exchanges last (.ok observed) ∧
      (observed.isDeployed = true ↔ ∀ part ∈ router.settings.parts,
        part.kind ∈ Bundle.requiredKinds →
          ((rendered.held? part.kind).bind part.document?).isSome = true)

/-- What observing the parts shows of a cluster, whatever names its objects have. -/
def observable (router : Router) (cluster : Cluster) : Cluster where
  live kind := (router.settings.parts.find? fun part ↦ part.kind = kind).bind fun part ↦
    (cluster.live kind).bind part.document?
  items := cluster.items

theorem find?_part {part : Part} (hpart : part ∈ router.settings.parts) :
    (router.settings.parts.find? fun other ↦ other.kind = part.kind) = some part := by
  simp only [Settings.parts, List.mem_cons, List.not_mem_nil, or_false] at hpart
  rcases hpart with rfl | rfl | rfl | rfl | rfl <;> rfl

theorem live_observable (cluster : Cluster) {part : Part} (hpart : part ∈ router.settings.parts) :
    (router.observable cluster).live part.kind =
      (cluster.live part.kind).bind part.document? := by
  simp only [observable, find?_part hpart, Option.bind_some]

/-- A router counts as deployed exactly if each required part can be observed. -/
theorem isDeployed_observable_iff {cluster : Cluster} :
    ((router.observable cluster).shown router.settings.parts).isDeployed = true ↔
      ∀ part ∈ router.settings.parts, part.kind ∈ Bundle.requiredKinds →
        ((cluster.live part.kind).bind part.document?).isSome = true := by
  rw [isDeployed_shown_iff]
  constructor
  · intro h part hpart hkind
    rw [← live_observable cluster hpart]
    exact h part.kind hkind
  · intro h kind hkind
    obtain ⟨part, hpart, rfl⟩ := List.mem_map.mp (router.settings.kind_mem_parts kind)
    rw [live_observable cluster hpart]
    exact h part hpart hkind

/-- On a frugal party, a pass that replaces a router leaves what the rendered files hold and nothing
else, whatever was live before. -/
theorem replaced_by_rendered (hfrugal : Frugal respond view) (h : Replaces respond router s rendered) :
    Leaves respond view router rendered (router.pass respond s).state := by
  obtain ⟨start, updated, results, hupdate⟩ := h.exists_update
  have hlive (kind : Kind) := live_of_update hfrugal hupdate kind
  refine ⟨hlive, fun kind ↦ by rw [hlive, Bundle.isSome_held?_iff], ?_⟩
  obtain ⟨exchanges, last, hobserve, -⟩ := runs_observe hfrugal.toFaithful
    fun part (hpart : part ∈ router.settings.parts) ↦
      live_observable (view (router.pass respond s).state) hpart
  refine ⟨exchanges, last, _, hobserve, ?_⟩
  simp only [isDeployed_observable_iff, hlive]

/-- A pass on a cluster and an observation after it: the kinds that are live then, and whether the
router is deployed. -/
def aftermath (router : Router) (cluster : Cluster) : Option (List Kind × Bool) := do
  let outcome := router.pass Cluster.respond cluster
  discard outcome.result.toOption
  let observed ← (Program.run Cluster.respond router.observe.run outcome.state).result.toOption
  pure (outcome.state.kinds, observed.isDeployed)

theorem succeeds_of_aftermath {cluster : Cluster} {left : List Kind × Bool}
    (h : router.aftermath cluster = some left) :
    ∃ status, (router.pass Cluster.respond cluster).result = .ok status := by
  cases hresult : (router.pass Cluster.respond cluster).result with
  | ok status => exact ⟨status, rfl⟩
  | error e =>
    rw [aftermath, hresult] at h
    contradiction

/-- A cluster with all required parts, of which the service account has drifted. -/
def driftedCluster (rendered : Bundle) : Cluster :=
  .ofObjects
    [smallObject .deploymentConfig "router" [], smallObject .service "router" [],
      smallObject .serviceAccount "router" [("drift", .bool true)],
      smallObject .secret "router-certs" []]
    (rendered.manifests.map (·.document.root))

/-- A rendering without certificates. -/
def bareBundle : Bundle where
  manifests := [.deploymentConfig, .service, .serviceAccount].map fun kind ↦
    ⟨kind, "router", .ofRoot (smallObject kind "router" [])⟩

theorem aftermath_bare :
    smallRouter.aftermath (driftedCluster bareBundle) =
      some ([.deploymentConfig, .service, .serviceAccount], false) := by decide +kernel

theorem replaces_bare :
    Replaces Cluster.respond smallRouter (driftedCluster bareBundle) bareBundle where
  state := rfl
  performs := rfl
  decides := ⟨_, _, .mk rfl rfl, rfl, rfl⟩
  succeeds := succeeds_of_aftermath aftermath_bare

/-- Without certificates a replacement leaves the three parts that were rendered. -/
theorem replaced_by_rendered_bare :
    Frugal Cluster.respond id ∧
      Replaces Cluster.respond smallRouter (driftedCluster bareBundle) bareBundle ∧
      Leaves Cluster.respond id smallRouter bareBundle
        (smallRouter.pass Cluster.respond (driftedCluster bareBundle)).state :=
  ⟨Cluster.frugal_respond, replaces_bare,
    replaced_by_rendered Cluster.frugal_respond replaces_bare⟩

/-! ### Parts that are lost -/

/-- A rendering in which the secret has another name. -/
def renamedBundle : Bundle :=
  bareBundle.insert ⟨.secret, "certs", .ofRoot (smallObject .secret "certs" [])⟩

/-- The settings say that the deployment configuration is to be of another kind. -/
def relabelingRouter : Router :=
  { smallRouter with settings := { edits := [.plain .put "kind" (.string Kind.service.name)] } }

/-- The rendering with that edit. -/
def relabeledBundle : Bundle :=
  bareBundle.insert
    ⟨.deploymentConfig, "router", .ofRoot (smallObject .service "router" [])⟩

theorem aftermath_renamed :
    smallRouter.aftermath (driftedCluster renamedBundle) =
      some ([.deploymentConfig, .service, .serviceAccount, .secret], false) := by decide +kernel

theorem replaces_renamed :
    Replaces Cluster.respond smallRouter (driftedCluster renamedBundle) renamedBundle where
  state := rfl
  performs := rfl
  decides := ⟨_, _, .mk rfl rfl, rfl, rfl⟩
  succeeds := succeeds_of_aftermath aftermath_renamed

theorem put_kind :
    (Document.put "kind" (.string Kind.service.name)).run
        (.ofRoot (smallObject .deploymentConfig "router" [])) =
      .ok true (.ofRoot (smallObject .service "router" [])) := by
  have hpath : (Document.ofRoot (smallObject .deploymentConfig "router" [])).parsePath "kind" =
      .ok [.key "kind"] := by
    have hparse : Path.parse "kind" .dot = .ok [.key "kind"] := by decide +kernel
    exact congrArg (Except.mapError DocumentError.path) hparse
  rw [Document.put_run, Document.changeAt_of_parsePath hpath]
  rfl

theorem modified_relabeled : relabelingRouter.modified bareBundle = .ok relabeledBundle := by
  have hedits : (editEach Edit.apply relabelingRouter.settings.edits).run
      (.ofRoot (smallObject .deploymentConfig "router" [])) =
        .ok true (.ofRoot (smallObject .service "router" [])) := by
    change (editEach Edit.apply [.plain .put "kind" (.string Kind.service.name)]).run _ = _
    rw [editEach, EStateM.run_bind]
    simp only [Edit.apply, Edit.plain, put_kind]
    rfl
  have hget : bareBundle.get? .deploymentConfig =
      some ⟨.deploymentConfig, "router", .ofRoot (smallObject .deploymentConfig "router" [])⟩ := rfl
  rw [modified, EStateM.run, addModifications, hget]
  simp only [hedits]
  rfl

theorem aftermath_relabeled :
    relabelingRouter.aftermath (driftedCluster bareBundle) =
      some ([.service, .serviceAccount], false) := by decide +kernel

theorem replaces_relabeled :
    Replaces Cluster.respond relabelingRouter (driftedCluster bareBundle) relabeledBundle where
  state := rfl
  performs := rfl
  decides := by
    have hruns (s : Cluster) : Runs Cluster.respond relabelingRouter.prepare s _ _ _ :=
      runs_prepare rfl s
    have hprepare := hruns (driftedCluster bareBundle)
    change Runs _ _ _ _ _ (relabelingRouter.modified bareBundle) at hprepare
    rw [modified_relabeled] at hprepare
    exact ⟨_, _, .mk rfl hprepare, rfl, rfl⟩
  succeeds := succeeds_of_aftermath aftermath_relabeled

/-- A pass that replaces a router with all required parts may leave one without: the secret is lost
where none is rendered, the deployment configuration where an edit makes its file state another
kind, and a secret of another name is not one of the router. -/
theorem replacement_loses_parts :
    Frugal Cluster.respond id ∧
      (Replaces Cluster.respond smallRouter (driftedCluster bareBundle) bareBundle ∧
        (driftedCluster bareBundle).kinds = [.deploymentConfig, .service, .serviceAccount, .secret] ∧
        smallRouter.aftermath (driftedCluster bareBundle) =
          some ([.deploymentConfig, .service, .serviceAccount], false)) ∧
      (Replaces Cluster.respond relabelingRouter (driftedCluster bareBundle) relabeledBundle ∧
        relabelingRouter.aftermath (driftedCluster bareBundle) =
          some ([.service, .serviceAccount], false)) ∧
      Replaces Cluster.respond smallRouter (driftedCluster renamedBundle) renamedBundle ∧
        smallRouter.aftermath (driftedCluster renamedBundle) =
          some ([.deploymentConfig, .service, .serviceAccount, .secret], false) :=
  ⟨Cluster.frugal_respond, ⟨replaces_bare, by decide, aftermath_bare⟩,
    ⟨replaces_relabeled, aftermath_relabeled⟩, replaces_renamed, aftermath_renamed⟩

end Router

end ClusterRouter
