import ClusterRouter.Proofs.Document.Exactness
import ClusterRouter.Proofs.Manifest.Bundle
import ClusterRouter.Proofs.Manifest.Ports

/-!
# Laws of drift

Whether a router has drifted can always be told of a bundle that was prepared. A router whose
observed parts equal the rendered ones has not drifted: taking over a password that is in use and
adding the default protocol do not tell them apart.
-/

namespace ClusterRouter

/-- The paths into the documents of a bundle are separated by dots. -/
def Bundle.Dotted (bundle : Bundle) : Prop :=
  ∀ kind manifest, bundle.get? kind = some manifest → manifest.document.separator = .dot

/-- The keys of all maps in the documents of a bundle are in order. -/
def Bundle.WellFormed (bundle : Bundle) : Prop :=
  ∀ kind manifest, bundle.get? kind = some manifest → manifest.document.root.WellFormed

namespace Reconcile

open Document (Reaches)

/-- The edits that align a part succeed. -/
theorem edited_of_reaches {edits : Editing Unit} {document : Document} {post : Document → Prop}
    (h : Reaches edits document post) : ∃ after, edited edits document = .ok after ∧ post after := by
  obtain ⟨_, after, hrun, hpost⟩ := h
  refine ⟨after, ?_, hpost⟩
  rw [edited, hrun]

/-! ### Aligning parts -/

theorem alignService_succeeds {document : Document} (hdot : document.separator = .dot) :
    Reaches alignService document fun after ↦ after.separator = .dot :=
  (setPortProtocol_succeeds Service.parse_portsPath defaultProtocol false hdot).discard

theorem keepPassword_succeeds (settings : Settings) (live : Document) {document : Document}
    (hdot : document.separator = .dot) :
    Reaches (keepPassword settings live) document fun after ↦ after.separator = .dot := by
  apply Document.reaches_get
  split
  · cases DeploymentConfig.envValue? live statsPassword with
    | some password => exact DeploymentConfig.updateEnvVar_succeeds statsPassword password hdot
    | none => exact Document.reaches_pure hdot
  · exact Document.reaches_pure hdot

theorem alignDeployment_succeeds (settings : Settings) (live : Document) {document : Document}
    (hdot : document.separator = .dot) :
    Reaches (alignDeployment settings live) document fun after ↦ after.separator = .dot :=
  (keepPassword_succeeds settings live hdot).discard.bind fun _ _ hafter ↦
    (setPortProtocol_succeeds DeploymentConfig.parse_portsPath defaultProtocol true hafter).discard

/-- The password of an equal document is there already. -/
theorem keepPassword_of_equal (settings : Settings) {live document : Document}
    (hlive : live.separator = .dot) (hdot : document.separator = .dot)
    (hequal : (document.root == live.root) = true) :
    Reaches (keepPassword settings live) document (· = document) := by
  apply Document.reaches_get
  split
  · next hkeeps =>
    obtain ⟨-, hkey⟩ := Bool.and_eq_true_iff.mp hkeeps
    cases hvalue : DeploymentConfig.envValue? live statsPassword with
    | some password =>
      exact DeploymentConfig.updateEnvVar_of_equal hlive hdot hequal hkey hvalue
    | none => exact Document.reaches_pure rfl
  · exact Document.reaches_pure rfl

/-! ### Whether a router has drifted can be told -/

/-- A bundle as preparing leaves it, with the parts that every rendering has. -/
structure Rendered (bundle : Bundle) : Prop where
  contains : ∀ kind ∈ renderedKinds, bundle.contains kind = true
  dotted : bundle.Dotted

theorem Rendered.exists_get? {bundle : Bundle} (h : Rendered bundle) (kind : Kind)
    (hkind : kind ∈ renderedKinds) :
    ∃ manifest, bundle.get? kind = some manifest ∧ required bundle kind = .ok manifest ∧
      manifest.document.separator = .dot := by
  obtain ⟨manifest, hmanifest⟩ := Option.isSome_iff_exists.mp (h.contains kind hkind)
  refine ⟨manifest, hmanifest, ?_, h.dotted kind manifest hmanifest⟩
  rw [required, hmanifest]
  rfl

/-- All that is compared, once the parts are there and aligned. -/
theorem needsUpdate_eq {settings : Settings} {observed rendered : Bundle}
    {deployment service account secret wantedDeployment wantedService wantedAccount : Manifest}
    {alignedDeployment alignedService : Document}
    (hdeployment : observed.get? .deploymentConfig = some deployment)
    (hservice : observed.get? .service = some service)
    (haccount : observed.get? .serviceAccount = some account)
    (hsecret : observed.get? .secret = some secret)
    (hwantedDeployment : required rendered .deploymentConfig = .ok wantedDeployment)
    (hwantedService : required rendered .service = .ok wantedService)
    (hwantedAccount : required rendered .serviceAccount = .ok wantedAccount)
    (hdeployment' : edited (alignDeployment settings deployment.document)
      wantedDeployment.document = .ok alignedDeployment)
    (hservice' : edited alignService wantedService.document = .ok alignedService) :
    needsUpdate settings observed rendered =
      .ok (drifted SkipSet.tokens wantedAccount.document account.document ||
        secretDrifted rendered secret.document ||
        drifted SkipSet.allocated alignedService service.document ||
        drifted SkipSet.defaulted alignedDeployment deployment.document) := by
  rw [needsUpdate, hdeployment, hservice, haccount, hsecret]
  simp only [hwantedAccount, hwantedService, hwantedDeployment, hservice', hdeployment', bind,
    Except.bind, pure, Except.pure]
  cases drifted SkipSet.tokens wantedAccount.document account.document <;> try rfl
  cases secretDrifted rendered secret.document <;> try rfl
  cases drifted SkipSet.allocated alignedService service.document <;> rfl

/-- The parts of a router that counts as deployed. -/
theorem exists_of_isDeployed {bundle : Bundle} (h : bundle.isDeployed = true) (kind : Kind)
    (hkind : kind ∈ Bundle.requiredKinds) : ∃ manifest, bundle.get? kind = some manifest :=
  Option.isSome_iff_exists.mp (List.all_eq_true.mp h kind hkind)

theorem needsUpdate_of_not_isDeployed {observed : Bundle} (h : observed.isDeployed = false)
    (settings : Settings) (rendered : Bundle) : needsUpdate settings observed rendered = .ok true := by
  unfold needsUpdate
  split
  · next hdeployment hservice haccount hsecret =>
    simp [Bundle.isDeployed, Bundle.requiredKinds, Bundle.contains, hdeployment, hservice,
      haccount, hsecret] at h
  · rfl

/-- Of a deployed router it can be told whether it has drifted. -/
theorem needsUpdate_succeeds (settings : Settings) {observed rendered : Bundle}
    (hdeployed : observed.isDeployed = true) (h : Rendered rendered) :
    ∃ needs, needsUpdate settings observed rendered = .ok needs := by
  obtain ⟨deployment, hdeployment⟩ := exists_of_isDeployed hdeployed .deploymentConfig (by decide)
  obtain ⟨service, hservice⟩ := exists_of_isDeployed hdeployed .service (by decide)
  obtain ⟨account, haccount⟩ := exists_of_isDeployed hdeployed .serviceAccount (by decide)
  obtain ⟨secret, hsecret⟩ := exists_of_isDeployed hdeployed .secret (by decide)
  obtain ⟨wantedAccount, -, haccount', -⟩ := h.exists_get? .serviceAccount (by decide)
  obtain ⟨wantedService, -, hservice', hserviceDot⟩ := h.exists_get? .service (by decide)
  obtain ⟨wantedDeployment, -, hdeployment', hdeploymentDot⟩ :=
    h.exists_get? .deploymentConfig (by decide)
  obtain ⟨alignedService, hserviceAligned, -⟩ :=
    edited_of_reaches (alignService_succeeds hserviceDot)
  obtain ⟨alignedDeployment, hdeploymentAligned, -⟩ := edited_of_reaches
    (alignDeployment_succeeds settings deployment.document hdeploymentDot)
  exact ⟨_, needsUpdate_eq hdeployment hservice haccount hsecret hdeployment' hservice' haccount'
    hdeploymentAligned hserviceAligned⟩

/-! ### A router that equals its rendering has not drifted -/

/-- What was observed of a part equals what was rendered. -/
structure Matches (observed rendered : Manifest) : Prop where
  observedDot : observed.document.separator = .dot
  renderedDot : rendered.document.separator = .dot
  observedFormed : observed.document.root.WellFormed
  renderedFormed : rendered.document.root.WellFormed
  equal : (rendered.document.root == observed.document.root) = true

theorem drifted_eq_false {skip : SkipSet} {desired observed : Document}
    (h : Drift.Covers skip .item desired.root observed.root) :
    drifted skip desired observed = false := by
  rw [drifted, Drift.agree_iff_covers.mpr h, Bool.not_true]

theorem Matches.covers {observed rendered : Manifest} (h : Matches observed rendered)
    (skip : SkipSet) :
    Drift.Covers skip .item rendered.document.root observed.document.root :=
  Drift.covers_of_equal skip _ _ h.observedFormed h.equal .item

/-- No port of a service names another protocol than the one that is set. -/
def DefaultPorts (service : Manifest) : Prop :=
  ∀ port ∈ listAt service.document Service.portsPath, ∀ protocol,
    port.field? "protocol" = some protocol → protocol = .string defaultProtocol

theorem alignService_covers {observed rendered : Manifest} (h : Matches observed rendered)
    (hports : DefaultPorts rendered) (skip : SkipSet) :
    Reaches alignService rendered.document fun after ↦
      Drift.Covers skip .item after.root observed.document.root :=
  (setPortProtocol_covers Service.parse_portsPath trivial rfl h.renderedDot h.renderedFormed
    (h.covers skip) fun port hport _ ↦ hports port hport).discard

theorem alignDeployment_covers (settings : Settings) {observed rendered : Manifest}
    (h : Matches observed rendered) (skip : SkipSet) :
    Reaches (alignDeployment settings observed.document) rendered.document fun after ↦
      Drift.Covers skip .item after.root observed.document.root := by
  refine (keepPassword_of_equal settings h.observedDot h.renderedDot h.equal).discard.bind ?_
  rintro _ _ rfl
  refine (setPortProtocol_covers DeploymentConfig.parse_portsPath trivial rfl h.renderedDot
    h.renderedFormed (h.covers skip) fun port _ hadjusted found hfound ↦ ?_).discard
  -- Only protocols that are missing are set here.
  rw [hadjusted.2 rfl] at hfound
  contradiction

/-- A router whose parts equal the rendered ones has not drifted. -/
theorem needsUpdate_of_matches (settings : Settings) {observed rendered : Bundle}
    (hdeployed : rendered.isDeployed = true)
    (hmatches : ∀ kind wanted, rendered.get? kind = some wanted →
      ∃ seen, observed.get? kind = some seen ∧ Matches seen wanted)
    (hports : ∀ service, rendered.get? .service = some service → DefaultPorts service) :
    needsUpdate settings observed rendered = .ok false := by
  have hpart (kind : Kind) (hkind : kind ∈ Bundle.requiredKinds) :
      ∃ seen wanted, observed.get? kind = some seen ∧ rendered.get? kind = some wanted ∧
        required rendered kind = .ok wanted ∧ Matches seen wanted := by
    obtain ⟨wanted, hwanted⟩ := exists_of_isDeployed hdeployed kind hkind
    obtain ⟨seen, hseen, hequal⟩ := hmatches kind wanted hwanted
    refine ⟨seen, wanted, hseen, hwanted, ?_, hequal⟩
    rw [required, hwanted]
    rfl
  obtain ⟨deployment, wantedDeployment, hdeployment, -, hdeployment', hdeploymentMatches⟩ :=
    hpart .deploymentConfig (by decide)
  obtain ⟨service, wantedService, hservice, hserviceGet, hservice', hserviceMatches⟩ :=
    hpart .service (by decide)
  obtain ⟨account, wantedAccount, haccount, -, haccount', haccountMatches⟩ :=
    hpart .serviceAccount (by decide)
  obtain ⟨secret, wantedSecret, hsecret, hsecretGet, -, hsecretMatches⟩ :=
    hpart .secret (by decide)
  obtain ⟨alignedService, hserviceAligned, hserviceCovers⟩ := edited_of_reaches
    (alignService_covers hserviceMatches (hports _ hserviceGet) SkipSet.allocated)
  obtain ⟨alignedDeployment, hdeploymentAligned, hdeploymentCovers⟩ := edited_of_reaches
    (alignDeployment_covers settings hdeploymentMatches SkipSet.defaulted)
  have hsecretKept : secretDrifted rendered secret.document = false := by
    rw [secretDrifted, hsecretGet, Option.any_some, drifted_eq_false (hsecretMatches.covers _)]
  rw [needsUpdate_eq hdeployment hservice haccount hsecret hdeployment' hservice' haccount'
    hdeploymentAligned hserviceAligned, drifted_eq_false (haccountMatches.covers _), hsecretKept,
    drifted_eq_false hserviceCovers, drifted_eq_false hdeploymentCovers]
  rfl

end Reconcile

end ClusterRouter
