import ClusterRouter.Proofs.Document.Exactness
import ClusterRouter.Proofs.Manifest.Bundle

/-!
# Edits of a rendering

The edits of the settings are applied to the deployment configuration of a rendering, one after
another, and each reports whether it has changed anything. The row of reports decides how this
ends. Whatever the end is, nothing but the document of the deployment configuration is another one.
-/

namespace ClusterRouter

/-- Actions in a row fail with the first that fails, where the earlier ones have led to. -/
theorem mapM_run_eq_error_iff {ε σ α β : Type} {f : α → EStateM ε σ β} {items : List α}
    {s after : σ} {e : ε} :
    (items.mapM f).run s = .error e after ↔ ∃ earlier item later results middle,
      items = earlier ++ item :: later ∧ (earlier.mapM f).run s = .ok results middle ∧
        (f item).run middle = .error e after := by
  constructor
  · intro h
    -- the state is general: after the first action the rest goes on from another one
    induction items generalizing s with
    | nil => contradiction
    | cons item items ih =>
      rw [List.mapM_cons, EStateM.run_bind] at h
      cases hfirst : (f item).run s with
      | error e middle =>
        rw [hfirst] at h
        cases h
        exact ⟨[], item, items, [], s, rfl, rfl, hfirst⟩
      | ok result middle =>
        simp only [hfirst, EStateM.run_bind] at h
        cases hrest : (items.mapM f).run middle with
        | ok results last =>
          rw [hrest] at h
          contradiction
        | error e last =>
          rw [hrest] at h
          cases h
          obtain ⟨earlier, failing, later, results, before, rfl, hearlier, hfailing⟩ := ih hrest
          refine ⟨item :: earlier, failing, later, result :: results, before, rfl, ?_, hfailing⟩
          simp only [List.mapM_cons, EStateM.run_bind, hfirst, hearlier, EStateM.run_pure]
  · rintro ⟨earlier, item, later, results, middle, rfl, hearlier, hfailing⟩
    simp only [List.mapM_append, List.mapM_cons, EStateM.run_bind, hearlier, hfailing]

/-- A row of edits tells whether one of its reports is of a change. -/
theorem editEach_eq_mapM {α : Type} (edit : α → Editing Bool) (items : List α) :
    editEach edit items = items.mapM edit >>= fun reports ↦ pure (reports.any id) := by
  induction items with
  | nil => rfl
  | cons item items ih => simp [editEach, ih, List.mapM_cons]

namespace Edit

/-- An edit that fails leaves the document as it was. -/
theorem eq_of_apply_error {edit : Edit} {document after : Document} {e : DocumentError}
    (h : edit.apply.run document = .error e after) : after = document :=
  Document.eq_of_concluded_error
    ((Document.Operation.perform_run document (.apply edit)).symm.trans h)

/-- An edit that reports no change leaves the document as it was. -/
theorem eq_of_apply_false {edit : Edit} {document after : Document}
    (h : edit.apply.run document = .ok false after) : after = document :=
  Document.eq_of_concluded_false
    ((Document.Operation.perform_run document (.apply edit)).symm.trans h)

end Edit

namespace Bundle

variable {bundle : Bundle} {manifest : Manifest}

/-- The bundle with another document for its deployment configuration, if it has one. -/
def withDeployment (bundle : Bundle) (document : Document) : Bundle :=
  ⟨bundle.manifests.map fun manifest =>
    if manifest.kind = .deploymentConfig then { manifest with document } else manifest⟩

theorem kinds_withDeployment (bundle : Bundle) (document : Document) :
    (bundle.withDeployment document).manifests.map Manifest.kind =
      bundle.manifests.map Manifest.kind := by
  rw [withDeployment, List.map_map]
  refine List.map_congr_left fun manifest _ ↦ ?_
  rw [Function.comp_apply]
  split <;> rfl

theorem insert_eq_withDeployment (hbundle : bundle.Ordered)
    (h : bundle.get? .deploymentConfig = some manifest) (document : Document) :
    bundle.insert { manifest with document } = bundle.withDeployment document := by
  have hmanifest := kind_of_get? h
  rw [withDeployment, hbundle.manifests_eq, List.map_filterMap, insert]
  refine congrArg _ (List.filterMap_congr fun kind _ ↦ ?_)
  by_cases hkind : kind = .deploymentConfig
  · subst hkind
    rw [h, Option.map_some, if_pos hmanifest, if_pos hmanifest.symm]
  · rw [hmanifest, if_neg hkind]
    cases hother : bundle.get? kind with
    | none => rfl
    | some other =>
      rw [Option.map_some, if_neg (kind_of_get? hother ▸ hkind)]

theorem withDeployment_self (hbundle : bundle.Ordered)
    (h : bundle.get? .deploymentConfig = some manifest) :
    bundle.withDeployment manifest.document = bundle := by
  have hsame : ∀ other ∈ bundle.manifests, (if other.kind = .deploymentConfig then
      { other with document := manifest.document } else other) = other := by
    intro other hother
    split
    next hkind =>
      have hfound := hbundle.get?_eq_some_iff.mpr ⟨hother, hkind⟩
      rw [h] at hfound
      cases hfound
      rfl
    next => rfl
  exact congrArg Bundle.mk ((List.map_congr_left hsame).trans (List.map_id' _))

theorem get?_withDeployment {kind : Kind} (hkind : kind ≠ .deploymentConfig) (bundle : Bundle)
    (document : Document) : (bundle.withDeployment document).get? kind = bundle.get? kind := by
  have hkinds (manifest : Manifest) : (if manifest.kind = .deploymentConfig then
      { manifest with document } else manifest).kind = manifest.kind := by
    split <;> rfl
  rw [get?, withDeployment, List.find?_map]
  simp only [Function.comp_def, hkinds]
  change (bundle.get? kind).map _ = bundle.get? kind
  cases hother : bundle.get? kind with
  | none => rfl
  | some other => rw [Option.map_some, if_neg (kind_of_get? hother ▸ hkind)]

end Bundle

namespace Reconcile

variable {edits : List Edit} {bundle after : Bundle} {manifest : Manifest}

/-- How a rendering goes on from the end of its edits. -/
def modifiedBy (bundle : Bundle) :
    EStateM.Result DocumentError Document (List Bool) → EStateM.Result ReconcileError Bundle Unit
  | .ok reports document =>
    if true ∈ reports then .ok () (bundle.withDeployment document)
    else .error .editsMadeNoChange bundle
  | .error e document => .error (.document e) (bundle.withDeployment document)

theorem addModifications_run_of_missing (hedits : edits ≠ [])
    (h : bundle.get? .deploymentConfig = none) :
    (addModifications edits).run bundle =
      .error (.rendering (.missing .deploymentConfig)) bundle := by
  rw [EStateM.run, addModifications, if_neg (by simpa using hedits), h]

theorem addModifications_run_of_present (hbundle : bundle.Ordered) (hedits : edits ≠ [])
    (h : bundle.get? .deploymentConfig = some manifest) :
    (addModifications edits).run bundle =
      modifiedBy bundle ((edits.mapM Edit.apply).run manifest.document) := by
  have hrow : (editEach Edit.apply edits).run manifest.document = _ :=
    congrArg (EStateM.run · manifest.document) (editEach_eq_mapM Edit.apply edits)
  rw [EStateM.run_bind] at hrow
  rw [EStateM.run, addModifications, if_neg (by simpa using hedits), h]
  simp only [Bundle.insert_eq_withDeployment hbundle h]
  cases hrun : (edits.mapM Edit.apply).run manifest.document with
  | error e document =>
    rw [hrun] at hrow
    simp only [hrow, modifiedBy]
  | ok reports document =>
    rw [hrun] at hrow
    simp only [EStateM.run_pure] at hrow
    cases hany : reports.any id with
    | true =>
      rw [hany] at hrow
      have hchanged : true ∈ reports := by simpa using hany
      simp only [hrow, modifiedBy, if_pos hchanged]
    | false =>
      rw [hany] at hrow
      have hunchanged : true ∉ reports := by simpa using hany
      -- the document is put back even then, but it is the one that was there
      have hsame : document = manifest.document :=
        Document.eq_of_editEach_false (fun _ _ _ _ happly ↦ Edit.eq_of_apply_false happly) hrow
      simp only [hrow, modifiedBy, if_neg hunchanged, hsame, Bundle.withDeployment_self hbundle h]

/-- The bundle that is left, however the edits have ended. -/
def remaining : EStateM.Result ReconcileError Bundle Unit → Bundle
  | .ok _ bundle | .error _ bundle => bundle

theorem remaining_eq (hbundle : bundle.Ordered) (edits : List Edit) :
    remaining ((addModifications edits).run bundle) = bundle ∨
      ∃ document, remaining ((addModifications edits).run bundle) =
        bundle.withDeployment document := by
  by_cases hedits : edits = []
  · subst hedits
    exact .inl rfl
  cases hmanifest : bundle.get? .deploymentConfig with
  | none =>
    rw [addModifications_run_of_missing hedits hmanifest]
    exact .inl rfl
  | some manifest =>
    rw [addModifications_run_of_present hbundle hedits hmanifest]
    cases (edits.mapM Edit.apply).run manifest.document with
    | error e document => exact .inr ⟨document, rfl⟩
    | ok reports document =>
      rw [modifiedBy]
      split
      · exact .inr ⟨document, rfl⟩
      · exact .inl rfl

/-- The edits changed something, all of them were applied in order, and their result is what the
deployment configuration has become. -/
theorem addModifications_eq_ok_iff (hbundle : bundle.Ordered) (hedits : edits ≠ []) :
    (addModifications edits).run bundle = .ok () after ↔ ∃ manifest reports document,
      bundle.get? .deploymentConfig = some manifest ∧
        (edits.mapM Edit.apply).run manifest.document = .ok reports document ∧
        true ∈ reports ∧ after = bundle.withDeployment document := by
  cases hmanifest : bundle.get? .deploymentConfig with
  | none => simp [addModifications_run_of_missing hedits hmanifest]
  | some manifest =>
    rw [addModifications_run_of_present hbundle hedits hmanifest]
    cases hrun : (edits.mapM Edit.apply).run manifest.document with
    | error e document => simp [modifiedBy, hrun]
    | ok reports document =>
      by_cases hchanged : true ∈ reports
      · simp [modifiedBy, hrun, hchanged, eq_comm]
      · simp [modifiedBy, hrun, hchanged]

theorem addModifications_eq_noChange_iff (hbundle : bundle.Ordered) :
    (addModifications edits).run bundle = .error .editsMadeNoChange after ↔
      edits ≠ [] ∧ (∃ manifest reports document, bundle.get? .deploymentConfig = some manifest ∧
        (edits.mapM Edit.apply).run manifest.document = .ok reports document ∧
        true ∉ reports) ∧ after = bundle := by
  by_cases hedits : edits = []
  · subst hedits
    simp [addModifications, EStateM.run]
  cases hmanifest : bundle.get? .deploymentConfig with
  | none => simp [addModifications_run_of_missing hedits hmanifest]
  | some manifest =>
    rw [addModifications_run_of_present hbundle hedits hmanifest]
    cases hrun : (edits.mapM Edit.apply).run manifest.document with
    | error e document => simp [modifiedBy, hrun]
    | ok reports document =>
      by_cases hchanged : true ∈ reports
      · simp [modifiedBy, hrun, hchanged]
      · simp [modifiedBy, hrun, hchanged, hedits, eq_comm]

theorem addModifications_eq_document_iff (hbundle : bundle.Ordered) {e : DocumentError} :
    (addModifications edits).run bundle = .error (.document e) after ↔
      ∃ manifest earlier edit later reports document,
        bundle.get? .deploymentConfig = some manifest ∧ edits = earlier ++ edit :: later ∧
        (earlier.mapM Edit.apply).run manifest.document = .ok reports document ∧
        edit.apply.run document = .error e document ∧ after = bundle.withDeployment document := by
  have hrow : (addModifications edits).run bundle = .error (.document e) after ↔
      ∃ manifest document, bundle.get? .deploymentConfig = some manifest ∧
        (edits.mapM Edit.apply).run manifest.document = .error e document ∧
        after = bundle.withDeployment document := by
    by_cases hedits : edits = []
    · subst hedits
      simp [addModifications, EStateM.run, pure, EStateM.pure]
    cases hmanifest : bundle.get? .deploymentConfig with
    | none => simp [addModifications_run_of_missing hedits hmanifest]
    | some manifest =>
      rw [addModifications_run_of_present hbundle hedits hmanifest]
      cases hrun : (edits.mapM Edit.apply).run manifest.document with
      | error e document => simp [modifiedBy, hrun, eq_comm]
      | ok reports document =>
        by_cases hchanged : true ∈ reports <;> simp [modifiedBy, hrun, hchanged]
  rw [hrow]
  -- where the row fails, the document is still the one that the failing edit was given
  constructor
  · rintro ⟨manifest, document, hmanifest, hrun, rfl⟩
    obtain ⟨earlier, edit, later, reports, middle, rfl, hearlier, hedit⟩ :=
      mapM_run_eq_error_iff.mp hrun
    obtain rfl := Edit.eq_of_apply_error hedit
    exact ⟨manifest, earlier, edit, later, reports, document, hmanifest, rfl, hearlier, hedit, rfl⟩
  · rintro ⟨manifest, earlier, edit, later, reports, document, hmanifest, rfl, hearlier, hedit, rfl⟩
    exact ⟨manifest, document, hmanifest, mapM_run_eq_error_iff.mpr
      ⟨earlier, edit, later, reports, document, rfl, hearlier, hedit⟩, rfl⟩

/-! ### Edits that are guarded -/

/-- A rendering of a deployment configuration with that many replicas and of a service. -/
def scaledBundle (replicas : Int64) : Bundle :=
  ⟨[⟨.deploymentConfig, "router", .ofRoot (.map [("replicas", .int replicas)])⟩,
    ⟨.service, "router", .ofRoot (.map [])⟩]⟩

theorem ordered_scaledBundle (replicas : Int64) : (scaledBundle replicas).Ordered :=
  .cons_cons _ (.cons_cons _ (List.nil_sublist _))

theorem run_put_replicas :
    (Edit.plain .put "replicas" (.int 2)).apply.run (.ofRoot (.map [("replicas", .int 1)])) =
      .ok true (.ofRoot (.map [("replicas", .int 2)])) := by
  have hpath : (Document.ofRoot (.map [("replicas", .int 1)])).parsePath "replicas" =
      .ok [.key "replicas"] := by
    have hparse : Path.parse "replicas" .dot = .ok [.key "replicas"] := by decide +kernel
    exact congrArg (Except.mapError DocumentError.path) hparse
  change (Document.put "replicas" (.int 2)).run _ = _
  rw [Document.put_run, Document.changeAt_of_parsePath hpath]
  rfl

theorem run_put_invalid (document : Document) (hdot : document.separator = .dot) :
    (Edit.plain .put "[" .null).apply.run document =
      .error (.path (.invalid "[" .dot)) document := by
  have hpath : document.parsePath "[" = .error (.path (.invalid "[" .dot)) := by
    have hparse : Path.parse "[" .dot = .error (.invalid "[" .dot) := by decide +kernel
    rw [Document.parsePath, hdot, hparse]
    rfl
  change (Document.put "[" .null).run _ = _
  rw [Document.put_run, Document.changeAt, hpath]
  rfl

/-- What the edits of a rendering may come to, and exactly when they do. -/
structure Guarded (edits : List Edit) (bundle : Bundle)
    (outcome : EStateM.Result ReconcileError Bundle Unit) : Prop where
  /-- No part is added or dropped. -/
  kinds : (remaining outcome).manifests.map Manifest.kind = bundle.manifests.map Manifest.kind
  /-- No part but the deployment configuration is another one. -/
  others : ∀ kind ≠ Kind.deploymentConfig, (remaining outcome).get? kind = bundle.get? kind
  unedited : edits = [] → outcome = .ok () bundle
  /-- All edits were applied in order, and one of them has changed something. -/
  ok_iff : edits ≠ [] → ∀ after, outcome = .ok () after ↔ ∃ manifest reports document,
    bundle.get? .deploymentConfig = some manifest ∧
      (edits.mapM Edit.apply).run manifest.document = .ok reports document ∧
      true ∈ reports ∧ after = bundle.withDeployment document
  /-- All edits were applied, and none of them has changed anything. -/
  no_change_iff : ∀ after, outcome = .error .editsMadeNoChange after ↔
    edits ≠ [] ∧ (∃ manifest reports document, bundle.get? .deploymentConfig = some manifest ∧
      (edits.mapM Edit.apply).run manifest.document = .ok reports document ∧
      true ∉ reports) ∧ after = bundle
  missing : edits ≠ [] → bundle.get? .deploymentConfig = none →
    outcome = .error (.rendering (.missing .deploymentConfig)) bundle
  /-- An edit has failed where the earlier ones have led to, and no later one was applied. -/
  document_iff : ∀ e after, outcome = .error (.document e) after ↔
    ∃ manifest earlier edit later reports document,
      bundle.get? .deploymentConfig = some manifest ∧ edits = earlier ++ edit :: later ∧
      (earlier.mapM Edit.apply).run manifest.document = .ok reports document ∧
      edit.apply.run document = .error e document ∧ after = bundle.withDeployment document

/-- Edits are applied in order up to the first that fails, they must change something, and they
are confined to the deployment configuration. -/
theorem addModifications_guarded (hbundle : bundle.Ordered) (edits : List Edit) :
    Guarded edits bundle ((addModifications edits).run bundle) where
  kinds := by
    rcases remaining_eq hbundle edits with hsame | ⟨document, hafter⟩
    · rw [hsame]
    · rw [hafter, Bundle.kinds_withDeployment]
  others kind hkind := by
    rcases remaining_eq hbundle edits with hsame | ⟨document, hafter⟩
    · rw [hsame]
    · rw [hafter, Bundle.get?_withDeployment hkind]
  unedited hedits := by
    subst hedits
    rfl
  ok_iff hedits _ := addModifications_eq_ok_iff hbundle hedits
  no_change_iff _ := addModifications_eq_noChange_iff hbundle
  missing := addModifications_run_of_missing
  document_iff _ _ := addModifications_eq_document_iff hbundle

/-- An edit with a path that cannot be read stands between two others: the first is applied. -/
theorem addModifications_guarded_of_invalid :
    (scaledBundle 1).Ordered ∧
      (addModifications [.plain .put "replicas" (.int 2), .plain .put "[" .null,
        .plain .put "replicas" (.int 3)]).run (scaledBundle 1) =
          .error (.document (.path (.invalid "[" .dot))) (scaledBundle 2) := by
  refine ⟨ordered_scaledBundle 1, ?_⟩
  apply ((addModifications_guarded (ordered_scaledBundle 1) _).document_iff _ _).mpr
  refine ⟨⟨.deploymentConfig, "router", .ofRoot (.map [("replicas", .int 1)])⟩,
    [.plain .put "replicas" (.int 2)], .plain .put "[" .null, [.plain .put "replicas" (.int 3)],
    [true], .ofRoot (.map [("replicas", .int 2)]), rfl, rfl, ?_, run_put_invalid _ rfl, rfl⟩
  simp only [List.mapM_cons, List.mapM_nil, EStateM.run_bind, EStateM.run_pure, run_put_replicas]

end Reconcile

end ClusterRouter
