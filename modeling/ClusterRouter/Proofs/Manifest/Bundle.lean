import Mathlib.Data.List.Nodup
import Mathlib.Tactic.Common
import ClusterRouter.Reconcile.Router

/-!
# Laws of bundles

A bundle that is built by inserting is ordered: its manifests follow the order of the kinds, one for
each kind at most.
-/

namespace ClusterRouter

theorem Kind.mem_all (kind : Kind) : kind ∈ Kind.all := by
  cases kind <;> decide

theorem Kind.nodup_all : Kind.all.Nodup := by decide

namespace Bundle

variable {bundle : Bundle} {manifest : Manifest} {kind : Kind}

/-- The manifests follow the order of the kinds. -/
def Ordered (bundle : Bundle) : Prop := (bundle.manifests.map Manifest.kind).Sublist Kind.all

theorem kind_of_get? (h : bundle.get? kind = some manifest) : manifest.kind = kind := by
  simpa using List.find?_some h

theorem ordered_empty : ({} : Bundle).Ordered := List.nil_sublist _

theorem Ordered.nodup (h : bundle.Ordered) : (bundle.manifests.map Manifest.kind).Nodup :=
  List.Sublist.nodup h Kind.nodup_all

/-- An ordered bundle holds a manifest under its own kind. -/
theorem Ordered.get?_eq_some_iff (h : bundle.Ordered) :
    bundle.get? kind = some manifest ↔ manifest ∈ bundle.manifests ∧ manifest.kind = kind := by
  constructor
  · intro hfound
    exact ⟨List.mem_of_find?_eq_some hfound, kind_of_get? hfound⟩
  · rintro ⟨hmem, rfl⟩
    cases hfound : bundle.get? manifest.kind with
    | none => exact absurd (by simp) (List.find?_eq_none.mp hfound manifest hmem)
    | some other =>
      have hother := List.mem_of_find?_eq_some hfound
      rw [List.inj_on_of_nodup_map h.nodup hother hmem (kind_of_get? hfound)]

theorem map_kind_filterMap_sublist {choice : Kind → Option Manifest}
    (hchoice : ∀ kind manifest, choice kind = some manifest → manifest.kind = kind)
    (kinds : List Kind) : ((kinds.filterMap choice).map Manifest.kind).Sublist kinds := by
  induction kinds with
  | nil => exact List.nil_sublist _
  | cons kind kinds ih =>
    cases hkind : choice kind with
    | none =>
      rw [List.filterMap_cons_none hkind]
      exact ih.cons kind
    | some manifest =>
      rw [List.filterMap_cons_some hkind, List.map_cons, hchoice kind manifest hkind]
      exact ih.cons_cons kind

/-- Manifests in the order of some kinds are those that are found under each kind in turn. -/
theorem filterMap_find?_kind {kinds : List Kind} {manifests : List Manifest}
    (hkinds : kinds.Nodup) (h : (manifests.map Manifest.kind).Sublist kinds) :
    kinds.filterMap (fun kind ↦ manifests.find? fun manifest ↦ manifest.kind = kind) =
      manifests := by
  induction kinds generalizing manifests with
  | nil => exact (List.map_eq_nil_iff.mp (List.sublist_nil.mp h)).symm
  | cons kind kinds ih =>
    obtain ⟨hkind, hrest⟩ := List.nodup_cons.mp hkinds
    rcases List.sublist_cons_iff.mp h with hsub | ⟨rest, hcons, hsub⟩
    · have hnone : manifests.find? (fun manifest ↦ manifest.kind = kind) = none := by
        refine List.find?_eq_none.mpr fun manifest hmanifest hsame ↦ hkind (hsub.subset ?_)
        exact List.mem_map.mpr ⟨manifest, hmanifest, of_decide_eq_true hsame⟩
      rw [List.filterMap_cons, hnone]
      exact ih hrest hsub
    · obtain ⟨manifest, others, rfl, rfl, rfl⟩ := List.map_eq_cons_iff.mp hcons
      rw [List.filterMap_cons, List.find?_cons_of_pos (by simp)]
      refine congrArg (manifest :: ·) (Eq.trans (List.filterMap_congr ?_) (ih hrest hsub))
      intro other hother
      refine List.find?_cons_of_neg fun hsame ↦ hkind ?_
      rwa [of_decide_eq_true hsame]

/-- An ordered bundle is what it holds under each kind. -/
theorem Ordered.manifests_eq (h : bundle.Ordered) :
    bundle.manifests = Kind.all.filterMap bundle.get? :=
  (filterMap_find?_kind Kind.nodup_all h).symm

/-- Where each kind has its choice, that is what the bundle of the choices holds under it. -/
theorem get?_filterMap {choice : Kind → Option Manifest}
    (hchoice : ∀ kind manifest, choice kind = some manifest → manifest.kind = kind) (kind : Kind) :
    (mk (Kind.all.filterMap choice)).get? kind = choice kind := by
  have hordered : (mk (Kind.all.filterMap choice)).Ordered :=
    map_kind_filterMap_sublist hchoice Kind.all
  ext manifest
  rw [hordered.get?_eq_some_iff, List.mem_filterMap]
  constructor
  · rintro ⟨⟨chosen, -, hmanifest⟩, rfl⟩
    rwa [hchoice chosen manifest hmanifest]
  · intro hmanifest
    exact ⟨⟨kind, kind.mem_all, hmanifest⟩, hchoice kind manifest hmanifest⟩

/-- The choice that inserting makes for each kind keeps to that kind. -/
theorem kind_of_insert_choice {manifest other : Manifest}
    (h : (if kind = manifest.kind then some manifest else bundle.get? kind) = some other) :
    other.kind = kind := by
  split at h
  next hkind =>
    cases h
    exact hkind.symm
  next => exact kind_of_get? h

theorem ordered_insert (bundle : Bundle) (manifest : Manifest) :
    (bundle.insert manifest).Ordered :=
  map_kind_filterMap_sublist (fun _ _ ↦ kind_of_insert_choice) Kind.all

theorem get?_insert (bundle : Bundle) (manifest : Manifest) (kind : Kind) :
    (bundle.insert manifest).get? kind =
      if kind = manifest.kind then some manifest else bundle.get? kind :=
  get?_filterMap (fun _ _ ↦ kind_of_insert_choice) kind

/-- What inserting the manifest of an item keeps is true of the bundle of all items. -/
theorem of_ofItems {kept : Bundle → Prop} {items : List Value} (hempty : kept {})
    (hinsert : ∀ bundle, kept bundle → ∀ item ∈ items, ∀ manifest,
      Manifest.ofDocument? (.ofRoot item) = some manifest → kept (bundle.insert manifest)) :
    kept (ofItems items) := by
  unfold ofItems
  generalize ({} : Bundle) = bundle at hempty
  induction items generalizing bundle with
  | nil => exact hempty
  | cons item items ih =>
    refine ih (fun bundle hbundle item hitem ↦
      hinsert bundle hbundle item (List.mem_cons_of_mem _ hitem)) _ ?_
    cases hmanifest : Manifest.ofDocument? (.ofRoot item) with
    | none => simpa [hmanifest] using hempty
    | some manifest =>
      simpa [hmanifest] using hinsert bundle hempty item List.mem_cons_self manifest hmanifest

theorem ordered_ofItems (items : List Value) : (ofItems items).Ordered :=
  of_ofItems ordered_empty fun bundle _ _ _ manifest _ ↦ ordered_insert bundle manifest

end Bundle

namespace Reconcile

theorem ordered_of_bundleOf {result : CommandResult} {bundle : Bundle}
    (h : bundleOf result = .ok bundle) :
    bundle.Ordered ∧ ∀ kind ∈ renderedKinds, bundle.contains kind = true := by
  unfold bundleOf at h
  split at h
  · contradiction
  split at h <;> try contradiction
  simp only at h
  split at h <;> cases h
  next hfind => exact ⟨Bundle.ordered_ofItems _, by simpa using List.find?_eq_none.mp hfind⟩

/-- The edits of a rendering touch its deployment configuration only. -/
theorem addModifications_run {edits : List Edit} {bundle after : Bundle}
    (h : (addModifications edits).run bundle = .ok () after) :
    after = bundle ∨ ∃ manifest document, bundle.get? .deploymentConfig = some manifest ∧
      (editEach Edit.apply edits).run manifest.document = .ok true document ∧
      after = bundle.insert { manifest with document } := by
  rw [EStateM.run, addModifications] at h
  split at h
  · cases h
    exact .inl rfl
  split at h
  · contradiction
  next manifest hmanifest =>
    split at h <;> cases h
    next document hedits => exact .inr ⟨manifest, document, hmanifest, hedits, rfl⟩

theorem ordered_of_addModifications {edits : List Edit} {bundle after : Bundle}
    (hbundle : bundle.Ordered) (h : (addModifications edits).run bundle = .ok () after) :
    after.Ordered := by
  rcases addModifications_run h with rfl | ⟨manifest, document, -, -, rfl⟩
  · exact hbundle
  · exact Bundle.ordered_insert _ _

end Reconcile

end ClusterRouter
