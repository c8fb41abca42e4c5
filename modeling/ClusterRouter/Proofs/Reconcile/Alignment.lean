import ClusterRouter.Proofs.Reconcile.Drift

/-!
# What is compared

Aligning a rendered part changes its lists of variables and ports and nothing else. So whether a
router has drifted is a question about the observed documents and the aligned ones.
-/

namespace ClusterRouter

open Document (Reaches)

namespace Reconcile

variable {settings : Settings} {live document : Document}

/-! ### What aligning makes of a document -/

/-- The password that is taken over. -/
def keptPassword? (settings : Settings) (live : Document) : Option Value :=
  if generatesPassword settings then DeploymentConfig.envValue? live statsPassword else none

/-- Variables with the password that is taken over. -/
def withPassword (settings : Settings) (live : Document) (entries : List Value) : List Value :=
  (keptPassword? settings live).elim entries fun password ↦
    DeploymentConfig.withVariable statsPassword password entries

def passwordShown (settings : Settings) (live : Document) (root : Value) : Value :=
  root.modify (Value.onItems (withPassword settings live)) DeploymentConfig.envSteps

/-- The root of an aligned deployment configuration. -/
def deploymentShown (settings : Settings) (live : Document) (root : Value) : Value :=
  (passwordShown settings live root).modify
    (Value.onItems (·.map (withProtocol defaultProtocol true))) DeploymentConfig.portsSteps

/-- The root of an aligned service. -/
def serviceShown (root : Value) : Value :=
  root.modify (Value.onItems (·.map (withProtocol defaultProtocol false))) Service.portsSteps

theorem withPassword_of_none (h : keptPassword? settings live = none) (entries : List Value) :
    withPassword settings live entries = entries := by
  rw [withPassword, h, Option.elim_none]

theorem withPassword_of_some {password : Value} (h : keptPassword? settings live = some password)
    (entries : List Value) : withPassword settings live entries =
      DeploymentConfig.withVariable statsPassword password entries := by
  rw [withPassword, h, Option.elim_some]

theorem wellFormed_of_keptPassword? (hlive : live.root.WellFormed) {password : Value}
    (h : keptPassword? settings live = some password) : password.WellFormed := by
  unfold keptPassword? at h
  split at h
  · exact DeploymentConfig.wellFormed_of_envValue? hlive h
  · contradiction

theorem wellFormed_passwordShown (hlive : live.root.WellFormed) {root : Value}
    (hroot : root.WellFormed) : (passwordShown settings live root).WellFormed := by
  apply Value.wellFormed_modify hroot
  intro found hfound
  refine Value.wellFormed_onItems (fun items hitems ↦ ?_) (Value.wellFormed_of_lookup hroot hfound)
  cases hkept : keptPassword? settings live with
  | none => rwa [withPassword_of_none hkept]
  | some password =>
    rw [withPassword_of_some hkept]
    exact DeploymentConfig.itemsWellFormed_withVariable (wellFormed_of_keptPassword? hlive hkept)
      hitems

/-- Where there is no variable to take the password, the document stays as it is. -/
theorem withPassword_of_not_hasEnvKey (hdot : document.separator = .dot) {items : List Value}
    (hkey : DeploymentConfig.hasEnvKey document statsPassword = false)
    (hitems : document.root.lookup DeploymentConfig.envSteps = some (.list items)) :
    withPassword settings live items = items := by
  have hlist : listAt document DeploymentConfig.envPath = items := by
    rw [listAt_eq DeploymentConfig.parse_envPath hdot, hitems]
    rfl
  have hnone : items.findIdx? (hasName statsPassword) = none := by
    rw [← hlist]
    exact Option.not_isSome_iff_eq_none.mp (Bool.eq_false_iff.mp hkey)
  cases hkept : keptPassword? settings live with
  | none => exact withPassword_of_none hkept items
  | some password =>
    rw [withPassword_of_some hkept, DeploymentConfig.withVariable]
    apply List.modify_eq_self
    rw [List.findIdx_eq_getD_findIdx?, hnone, Option.getD_none]

theorem keepPassword_effect (settings : Settings) (live : Document)
    (hdot : document.separator = .dot) (hwell : document.root.WellFormed) :
    Reaches (keepPassword settings live) document
      (· = { document with root := passwordShown settings live document.root }) := by
  have hsame (h : ∀ items, document.root.lookup DeploymentConfig.envSteps = some (.list items) →
      withPassword settings live items = items) :
      Reaches (pure false) document
        (· = { document with root := passwordShown settings live document.root }) := by
    apply Document.reaches_pure
    symm
    apply Document.modifyRoot_eq_self hwell
    intro found hfound
    apply Value.onItems_eq_self
    rintro items rfl
    exact h items hfound
  apply Document.reaches_get
  -- The program edits in one of three cases; in the others there is nothing to be taken over.
  split
  · next hkeeps =>
    obtain ⟨hgenerates, hkey⟩ := Bool.and_eq_true_iff.mp hkeeps
    have hkept : keptPassword? settings live = DeploymentConfig.envValue? live statsPassword :=
      if_pos hgenerates
    cases hvalue : DeploymentConfig.envValue? live statsPassword with
    | none => exact hsame fun items _ ↦ withPassword_of_none (hkept.trans hvalue) items
    | some password =>
      have hpassword : withPassword settings live =
          DeploymentConfig.withVariable statsPassword password :=
        funext (withPassword_of_some (hkept.trans hvalue))
      rw [passwordShown, hpassword]
      exact DeploymentConfig.updateEnvVar_effect hdot hwell hkey password
  · next hleaves =>
    apply hsame
    intro items hitems
    cases hgenerates : generatesPassword settings with
    | false =>
      refine withPassword_of_none (if_neg ?_) items
      rw [hgenerates]
      exact Bool.false_ne_true
    | true =>
      rw [hgenerates, Bool.true_and] at hleaves
      exact withPassword_of_not_hasEnvKey hdot (Bool.eq_false_iff.mpr hleaves) hitems

theorem alignDeployment_effect (settings : Settings) (hlive : live.root.WellFormed)
    (hdot : document.separator = .dot) (hwell : document.root.WellFormed) :
    Reaches (alignDeployment settings live) document
      (· = { document with root := deploymentShown settings live document.root }) := by
  refine (keepPassword_effect settings live hdot hwell).discard.bind fun _ middle hmiddle ↦ ?_
  have hmiddleDot : middle.separator = .dot := by rw [hmiddle, hdot]
  have hmiddleFormed : middle.root.WellFormed := by
    rw [hmiddle]
    exact wellFormed_passwordShown hlive hwell
  have hports := setPortProtocol_effect DeploymentConfig.parse_portsPath defaultProtocol true
    hmiddleDot hmiddleFormed
  subst hmiddle
  exact hports.discard

theorem alignService_effect (hdot : document.separator = .dot) (hwell : document.root.WellFormed) :
    Reaches alignService document (· = { document with root := serviceShown document.root }) :=
  (setPortProtocol_effect Service.parse_portsPath defaultProtocol false hdot hwell).discard

/-! ### Drift of the parts -/

def skips : Kind → SkipSet
  | .deploymentConfig => .defaulted
  | .service => .allocated
  | _ => .tokens

/-- The root of a rendered part as it is compared with the observed document. -/
def shown (settings : Settings) (live : Document) : Kind → Value → Value
  | .deploymentConfig, root => deploymentShown settings live root
  | .service, root => serviceShown root
  | _, root => root

/-- Both bundles hold a part of a kind, and the two differ in what counts. -/
def partDrifted (settings : Settings) (observed rendered : Bundle) (kind : Kind) : Bool :=
  match observed.get? kind, rendered.get? kind with
  | some live, some wanted =>
    !Drift.agree (skips kind) (shown settings live.document kind wanted.document.root)
      live.document.root
  | _, _ => false

theorem partDrifted_of_get? {observed rendered : Bundle} {kind : Kind} {live wanted : Manifest}
    (hlive : observed.get? kind = some live) (hwanted : rendered.get? kind = some wanted) :
    partDrifted settings observed rendered kind =
      !Drift.agree (skips kind) (shown settings live.document kind wanted.document.root)
        live.document.root := by
  rw [partDrifted, hlive, hwanted]

/-- A deployed router has drifted when one of its parts has. -/
theorem needsUpdate_eq_any (settings : Settings) {observed rendered : Bundle}
    (hdeployed : observed.isDeployed = true) (hobserved : observed.WellFormed)
    (h : Rendered rendered) (hformed : rendered.WellFormed) :
    needsUpdate settings observed rendered =
      .ok (Bundle.requiredKinds.any (partDrifted settings observed rendered)) := by
  obtain ⟨deployment, hdeployment⟩ := exists_of_isDeployed hdeployed .deploymentConfig (by decide)
  obtain ⟨service, hservice⟩ := exists_of_isDeployed hdeployed .service (by decide)
  obtain ⟨account, haccount⟩ := exists_of_isDeployed hdeployed .serviceAccount (by decide)
  obtain ⟨secret, hsecret⟩ := exists_of_isDeployed hdeployed .secret (by decide)
  obtain ⟨wantedAccount, haccountGet, haccount', -⟩ := h.exists_get? .serviceAccount (by decide)
  obtain ⟨wantedService, hserviceGet, hservice', hserviceDot⟩ := h.exists_get? .service (by decide)
  obtain ⟨wantedDeployment, hdeploymentGet, hdeployment', hdeploymentDot⟩ :=
    h.exists_get? .deploymentConfig (by decide)
  obtain ⟨_, hserviceAligned, rfl⟩ := edited_of_reaches
    (alignService_effect hserviceDot (hformed _ _ hserviceGet))
  obtain ⟨_, hdeploymentAligned, rfl⟩ := edited_of_reaches
    (alignDeployment_effect settings (hobserved _ _ hdeployment) hdeploymentDot
      (hformed _ _ hdeploymentGet))
  have hsecretDrifted : secretDrifted rendered secret.document =
      partDrifted settings observed rendered .secret := by
    rw [secretDrifted, partDrifted, hsecret]
    cases rendered.get? .secret <;> rfl
  rw [needsUpdate_eq hdeployment hservice haccount hsecret hdeployment' hservice' haccount'
    hdeploymentAligned hserviceAligned, hsecretDrifted, Bundle.requiredKinds]
  have haccountDrifted : drifted SkipSet.tokens wantedAccount.document account.document =
      partDrifted settings observed rendered .serviceAccount :=
    (partDrifted_of_get? haccount haccountGet).symm
  have hserviceDrifted : drifted SkipSet.allocated
      { wantedService.document with root := serviceShown wantedService.document.root }
      service.document = partDrifted settings observed rendered .service :=
    (partDrifted_of_get? hservice hserviceGet).symm
  have hdeploymentDrifted : drifted SkipSet.defaulted
      { wantedDeployment.document with
        root := deploymentShown settings deployment.document wantedDeployment.document.root }
      deployment.document = partDrifted settings observed rendered .deploymentConfig :=
    (partDrifted_of_get? hdeployment hdeploymentGet).symm
  rw [haccountDrifted, hserviceDrifted, hdeploymentDrifted]
  simp only [List.any_cons, List.any_nil, Bool.or_false]
  ac_rfl

end Reconcile

end ClusterRouter
