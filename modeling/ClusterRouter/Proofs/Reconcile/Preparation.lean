import ClusterRouter.Proofs.Reconcile.Drift
import ClusterRouter.Proofs.Reconcile.Modification
import ClusterRouter.Proofs.Reconcile.Pass

/-!
# Bundles that are prepared

What is prepared depends on the items of a rendering alone. It has the parts that every rendering
has, and the paths into its documents are separated by dots. So it can always be told whether the
router has drifted from it.
-/

namespace ClusterRouter

namespace Edit

/-- An edit changes nothing of a document but its root. -/
theorem separator_of_apply {edit : Edit} {document after : Document} {reported : Bool}
    (h : edit.apply.run document = .ok reported after) : after.separator = document.separator := by
  cases reported with
  | false => rw [eq_of_apply_false h]
  | true =>
    have hrun := Document.Operation.perform_run document (.apply edit)
    obtain ⟨root, -, rfl⟩ := Document.exists_of_concluded_true (hrun.symm.trans h)
    rfl

end Edit

/-- Edits change nothing of a document but its root. -/
theorem separator_of_editEach {edits : List Edit} {document after : Document} {reported : Bool}
    (h : (editEach Edit.apply edits).run document = .ok reported after) :
    after.separator = document.separator :=
  Document.related_of_editEach (motive := fun before _ after ↦ after.separator = before.separator)
    (fun _ ↦ rfl) (fun hfirst hsecond ↦ hsecond.trans hfirst)
    (fun _ _ _ _ _ hrun ↦ Edit.separator_of_apply hrun) h

namespace Bundle

theorem dotted_insert {bundle : Bundle} {manifest : Manifest} (h : bundle.Dotted)
    (hdot : manifest.document.separator = .dot) : (bundle.insert manifest).Dotted := by
  intro kind other hother
  rw [get?_insert] at hother
  split at hother
  · cases hother
    exact hdot
  · exact h kind other hother

theorem dotted_ofItems (items : List Value) : (ofItems items).Dotted := by
  refine of_ofItems (fun _ _ hnone ↦ absurd hnone (by simp [get?])) ?_
  intro bundle hbundle item _ manifest hmanifest
  obtain ⟨kind, -, rfl⟩ := Option.map_eq_some_iff.mp hmanifest
  exact dotted_insert hbundle rfl

end Bundle

namespace Reconcile

theorem bundle_of_bundleOf {result : CommandResult} {bundle : Bundle}
    (h : bundleOf result = .ok bundle) : ∃ items, bundle = Bundle.ofItems items := by
  unfold bundleOf at h
  split at h
  · contradiction
  split at h <;> try contradiction
  simp only at h
  split at h <;> cases h
  exact ⟨_, rfl⟩

/-- A successful rendering is told by its items. -/
theorem bundleOf_congr {first second : CommandResult} {items : List Value}
    (hfirst : first.succeeded = true) (hsecond : second.succeeded = true)
    (hfirstDecoded : first.decodeError = none) (hsecondDecoded : second.decodeError = none)
    (hfirstItems : (first.results.field? "items").bind Value.asList = some items)
    (hsecondItems : (second.results.field? "items").bind Value.asList = some items) :
    bundleOf first = bundleOf second := by
  rw [bundleOf, bundleOf, hfirst, hsecond, hfirstDecoded, hsecondDecoded, hfirstItems,
    hsecondItems]
  rfl

theorem rendered_of_bundleOf {result : CommandResult} {bundle : Bundle}
    (h : bundleOf result = .ok bundle) : Rendered bundle := by
  obtain ⟨-, hkinds⟩ := ordered_of_bundleOf h
  obtain ⟨items, rfl⟩ := bundle_of_bundleOf h
  exact ⟨hkinds, Bundle.dotted_ofItems items⟩

/-- Edits of the deployment configuration leave the bundle as a rendering has it. -/
theorem rendered_of_addModifications {edits : List Edit} {bundle after : Bundle}
    (hbundle : Rendered bundle) (h : (addModifications edits).run bundle = .ok () after) :
    Rendered after := by
  rcases addModifications_run h with rfl | ⟨manifest, document, hmanifest, hrun, rfl⟩
  · exact hbundle
  have hdot : document.separator = .dot := by
    rw [separator_of_editEach hrun, hbundle.dotted _ _ hmanifest]
  refine ⟨fun kind hkind ↦ ?_, Bundle.dotted_insert hbundle.dotted hdot⟩
  rw [Bundle.contains, Bundle.get?_insert]
  split
  · rfl
  · exact hbundle.contains kind hkind

end Reconcile

namespace Router

open Reconcile

variable {σ : Type} {respond : σ → Request → Reply × σ} {router : Router} {s after : σ}
  {exchanges : List Program.Exchange}

theorem rendered_of_prepare {rendered : Bundle}
    (h : Runs respond router.prepare s exchanges after (.ok rendered)) : Rendered rendered := by
  obtain ⟨certificate, result, bundle, -, hbundle, -, hrun⟩ := (renderedBy_of_prepare h).reply
  exact rendered_of_addModifications (rendered_of_bundleOf hbundle) hrun

/-- Whether a router has drifted can be told of whatever is observed and of every rendered bundle
with its three parts. Preparing gives only such bundles, whatever is answered. -/
theorem drift_decided (settings : Settings) (observed : Bundle) :
    (∀ rendered, Rendered rendered →
        ∃ needs, needsUpdate settings observed rendered = .ok needs) ∧
      ∀ {σ : Type} (respond : σ → Request → Reply × σ) (router : Router) (s : σ) (rendered : Bundle),
        (Program.run respond router.prepare.run s).result = .ok rendered → Rendered rendered := by
  constructor
  · intro rendered hrendered
    cases hdeployed : observed.isDeployed with
    | false => exact ⟨true, needsUpdate_of_not_isDeployed hdeployed settings rendered⟩
    | true => exact needsUpdate_succeeds settings hdeployed hrendered
  · intro σ respond router s rendered hresult
    have hruns : Runs respond router.prepare s _ _ _ := runs_of_run router.prepare s
    rw [hresult] at hruns
    exact rendered_of_prepare hruns

/-- A deployment configuration with a map of variables and null ports. -/
def oddDeployment : Value :=
  let container : Value := .map [("env", .map [("name", .string statsPassword)]), ("ports", .null)]
  let template : Value := .map [("spec", .map [("containers", .list [container])])]
  .map [("kind", .string Kind.deploymentConfig.name), ("spec", .map [("template", template)])]

/-- A service with ports that are no maps. -/
def oddService : Value :=
  .map [("kind", .string Kind.service.name),
    ("spec", .map [("ports", .list [.null, .list [], .string "http"])])]

def oddItems : List Value :=
  [oddDeployment, oddService, .map [("kind", .string Kind.serviceAccount.name)]]

/-- Each command is answered with the odd parts. -/
def respondOddly (s : Unit) (_ : Request) : Reply × Unit :=
  (.ok { results := .map [("items", .list oddItems)] }, s)

/-- The odd parts as they are prepared, next to a live router of the same parts and a secret. -/
theorem drift_decided_of_odd_parts :
    let router : Router := ⟨{}, .ofDirectory "/", { directory := "/tmp", token := "0" }, false⟩
    let rendered := Bundle.ofItems oddItems
    let observed := Bundle.ofItems (.map [("kind", .string Kind.secret.name)] :: oddItems)
    (Program.run respondOddly router.prepare.run ()).result = .ok rendered ∧ Rendered rendered ∧
      ∃ needs, needsUpdate router.settings observed rendered = .ok needs := by
  intro router rendered observed
  have hprepare : (Program.run respondOddly router.prepare.run ()).result = .ok rendered := rfl
  obtain ⟨hdecided, hrendered⟩ := drift_decided router.settings observed
  have hparts : Rendered rendered := hrendered respondOddly router () rendered hprepare
  exact ⟨hprepare, hparts, hdecided rendered hparts⟩

end Router

end ClusterRouter
