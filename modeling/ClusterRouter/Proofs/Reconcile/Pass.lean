import ClusterRouter.Proofs.Manifest.Bundle
import ClusterRouter.Proofs.Reconcile.Program
import ClusterRouter.Proofs.Storage.Artifact

/-!
# The course of a pass

A pass first observes and renders, which changes nothing, then deletes, and then creates. `Course`
lists the ways in which this can go whatever the answers are, and the order of the mutating requests
is read off it.
-/

namespace ClusterRouter

open Program (Exchange)

namespace Request

def isCreate : Request → Bool
  | .create .. => true
  | _ => false

def isDelete : Request → Bool
  | .delete .. => true
  | _ => false

/-- The request may change what is live. -/
def mutates : Request → Bool
  | .create .. | .delete .. | .replace .. => true
  | .render .. | .get .. | .process .. => false

end Request

namespace Reconcile

variable {σ : Type} {respond : σ → Request → Reply × σ} {s after : σ} {exchanges : List Exchange}

/-- No exchange changes anything. -/
def Quiet (exchanges : List Exchange) : Prop :=
  ∀ exchange ∈ exchanges, exchange.request.mutates = false

theorem quiet_nil : Quiet [] := by simp [Quiet]

theorem Quiet.append {first second : List Exchange} (h : Quiet first) (h' : Quiet second) :
    Quiet (first ++ second) :=
  List.forall_mem_append.mpr ⟨h, h'⟩

theorem quiet_singleton {exchange : Exchange} (h : exchange.request.mutates = false) :
    Quiet [exchange] := by
  simpa [Quiet] using h

def deletions (exchanges : List Exchange) : List Exchange := exchanges.filter (·.request.isDelete)

def creations (exchanges : List Exchange) : List Exchange := exchanges.filter (·.request.isCreate)

def mutations (exchanges : List Exchange) : List Exchange := exchanges.filter (·.request.mutates)

@[simp]
theorem deletions_append (first second : List Exchange) :
    deletions (first ++ second) = deletions first ++ deletions second :=
  List.filter_append first second

@[simp]
theorem creations_append (first second : List Exchange) :
    creations (first ++ second) = creations first ++ creations second :=
  List.filter_append first second

@[simp]
theorem mutations_append (first second : List Exchange) :
    mutations (first ++ second) = mutations first ++ mutations second :=
  List.filter_append first second

theorem Quiet.filter_eq_nil (h : Quiet exchanges) {p : Request → Bool}
    (hp : ∀ request, p request = true → request.mutates = true) :
    exchanges.filter (fun exchange ↦ p exchange.request) = [] := by
  apply List.filter_eq_nil_iff.mpr
  intro exchange hexchange hrequest
  have hmutates := hp exchange.request hrequest
  rw [h exchange hexchange] at hmutates
  contradiction

theorem Quiet.deletions (h : Quiet exchanges) : deletions exchanges = [] :=
  h.filter_eq_nil fun request hdelete ↦ by cases request <;> first | rfl | contradiction

theorem Quiet.creations (h : Quiet exchanges) : creations exchanges = [] :=
  h.filter_eq_nil fun request hcreate ↦ by cases request <;> first | rfl | contradiction

theorem Quiet.mutations (h : Quiet exchanges) : mutations exchanges = [] :=
  h.filter_eq_nil fun _ hmutates ↦ hmutates

theorem quiet_of_observePart {part : Part} {bundle : Bundle}
    {result : Except ReconcileError Bundle}
    (h : Runs respond (observePart part bundle) s exchanges after result) : Quiet exchanges := by
  rcases runs_bind_iff.mp h with ⟨e, hask, -⟩ | ⟨reply, first, middle, second, hask, hrest, rfl⟩
  · obtain ⟨rfl, -, -⟩ := runs_ask_iff.mp hask
    exact quiet_singleton rfl
  · obtain ⟨rfl, -, -⟩ := runs_ask_iff.mp hask
    split at hrest
    all_goals
      obtain ⟨rfl, -, -⟩ := runs_pure_iff.mp hrest
      exact quiet_singleton rfl

theorem quiet_of_observeParts {parts : List Part} {bundle : Bundle}
    {result : Except ReconcileError Bundle}
    (h : Runs respond (observeParts parts bundle) s exchanges after result) : Quiet exchanges := by
  induction parts generalizing bundle s exchanges with
  | nil =>
    obtain ⟨rfl, -, -⟩ := runs_pure_iff.mp h
    exact quiet_nil
  | cons part parts ih =>
    rcases runs_bind_iff.mp h with ⟨e, hpart, -⟩ | ⟨seen, first, middle, second, hpart, hrest, rfl⟩
    · exact quiet_of_observePart hpart
    · exact (quiet_of_observePart hpart).append (ih hrest)

end Reconcile

namespace Router

open Reconcile

variable {σ : Type} {respond : σ → Request → Reply × σ} {router : Router} {s after : σ}
  {exchanges : List Exchange}

def creation (router : Router) (manifest : Manifest) : Request := .create (router.fileOf manifest)

def deletion (part : Part) : Request := .delete part.kind part.name none

/-- A deletion needs no file, so that it can always be asked for. -/
def deletionOf (part : Part) : Except ReconcileError Request := .ok (deletion part)

/-- Temporary files can be made of all parts of a bundle. -/
def CanFile (router : Router) (bundle : Bundle) : Prop :=
  ∀ manifest ∈ bundle.manifests, router.place.Takes (router.fileOf manifest)

theorem creationOf_eq_ok_iff {manifest : Manifest} {request : Request} :
    router.creationOf manifest = .ok request ↔
      router.place.Takes (router.fileOf manifest) ∧ request = router.creation manifest := by
  rw [creationOf]
  constructor
  · intro h
    split at h <;> cases h
    next file hfile =>
      obtain ⟨htakes, rfl⟩ := ArtifactPlace.create_eq_ok_iff.mp hfile
      exact ⟨htakes, rfl⟩
  · rintro ⟨htakes, rfl⟩
    rw [ArtifactPlace.create_eq_ok_iff.mpr ⟨htakes, rfl⟩]
    rfl

theorem creationOf_eq_error_iff {manifest : Manifest} {e : ReconcileError} :
    router.creationOf manifest = .error e ↔
      ∃ cause, router.place.create (router.fileOf manifest) = .error cause ∧
        e = .artifact cause := by
  rw [creationOf]
  cases router.place.create (router.fileOf manifest) <;> simp [eq_comm]

theorem makes_creation (router : Router) : Makes router.creationOf router.creation :=
  fun _ _ hmade ↦ (creationOf_eq_ok_iff.mp hmade).2

theorem makes_deletion : Makes deletionOf deletion := fun _ _ hmade ↦ (Except.ok.inj hmade).symm

theorem deletions_of_attempted {action : PartsAction} {words : String} {parts : List Part}
    {result : Except ReconcileError (List CommandResult)}
    (h : Attempted action words deletionOf parts exchanges result) :
    deletions exchanges = exchanges ∧ creations exchanges = [] ∧
      mutations exchanges = exchanges := by
  refine ⟨h.filter_eq_self ?_, h.filter_eq_nil ?_, h.filter_eq_self ?_⟩ <;>
    rintro part made ⟨⟩ <;> rfl

theorem creations_of_attempted {action : PartsAction} {words : String} {manifests : List Manifest}
    {result : Except ReconcileError (List CommandResult)}
    (h : Attempted action words router.creationOf manifests exchanges result) :
    creations exchanges = exchanges ∧ deletions exchanges = [] ∧
      mutations exchanges = exchanges := by
  refine ⟨h.filter_eq_self ?_, h.filter_eq_nil ?_, h.filter_eq_self ?_⟩ <;>
    · intro manifest made hmade
      rw [router.makes_creation manifest made hmade]
      rfl

theorem parts_ne_nil (router : Router) : router.settings.parts ≠ [] := List.cons_ne_nil _ _

/-- Nothing keeps a deletion from being asked for. -/
theorem deletions_ne_nil_of_delete {result : Except ReconcileError (List CommandResult)}
    (h : Runs respond router.delete s exchanges after result) : deletions exchanges ≠ [] := by
  have hdeleted : Attempted .delete "not found" deletionOf router.settings.parts exchanges result :=
    attempted_of_runs h
  rw [(deletions_of_attempted hdeleted).1]
  exact hdeleted.exchanges_ne_nil (fun _ ↦ rfl) router.parts_ne_nil

theorem quiet_of_observe {result : Except ReconcileError Bundle}
    (h : Runs respond router.observe s exchanges after result) : Quiet exchanges :=
  quiet_of_observeParts h

/-- The request for a rendering with a certificate or without one. -/
def rendering (router : Router) (certificate : Option Artifact) : Request :=
  .render router.settings.name (router.settings.renderOptions (certificate.map Artifact.path))
    certificate

/-- A rendering with the edits of the settings. -/
def modified (router : Router) (bundle : Bundle) : Except ReconcileError Bundle :=
  match (addModifications router.settings.edits).run bundle with
  | .ok _ bundle => .ok bundle
  | .error e _ => .error e

/-- What is prepared out of the reply to the request for a rendering. -/
def prepared (router : Router) (reply : Reply) : Except ReconcileError Bundle :=
  (reply.mapError .request).bind fun result ↦ (bundleOf result).bind router.modified

theorem runs_prepare_of_error {e : ReconcileError} (h : router.certificate = .error e) (s : σ) :
    Runs respond router.prepare s [] s (.error e) :=
  (runs_decided_iff.mpr ⟨rfl, rfl, h.symm⟩).bind_error

theorem runs_prepare {certificate : Option Artifact} (h : router.certificate = .ok certificate)
    (s : σ) :
    Runs respond router.prepare s
      [⟨router.rendering certificate, (respond s (router.rendering certificate)).1⟩]
      (respond s (router.rendering certificate)).2
      (router.prepared (respond s (router.rendering certificate)).1) := by
  refine (runs_decided_iff.mpr ⟨rfl, rfl, h.symm⟩).bind ?_
  have hask : Runs respond (ask (router.rendering certificate)) s _ _ _ :=
    runs_ask_iff.mpr ⟨rfl, rfl, rfl⟩
  cases hreply : (respond s (router.rendering certificate)).1 with
  | error cause =>
    rw [hreply] at hask
    exact hask.bind_error
  | ok reply =>
    rw [hreply] at hask
    refine hask.bind ?_
    change Runs respond _ _ [] _ ((bundleOf reply).bind router.modified)
    cases bundleOf reply with
    | error e => exact (runs_decided_iff.mpr ⟨rfl, rfl, rfl⟩).bind_error
    | ok bundle =>
      refine (runs_decided_iff.mpr ⟨rfl, rfl, rfl⟩).bind ?_
      change Runs respond _ _ [] _ (router.modified bundle)
      unfold modified
      cases (addModifications router.settings.edits).run bundle with
      | ok _ rendered => exact runs_pure_iff.mpr ⟨rfl, rfl, rfl⟩
      | error e _ => exact runs_throw_iff.mpr ⟨rfl, rfl, rfl⟩

theorem exists_of_prepared_ok {reply : Reply} {rendered : Bundle}
    (h : router.prepared reply = .ok rendered) :
    ∃ result bundle, reply = .ok result ∧ bundleOf result = .ok bundle ∧
      (addModifications router.settings.edits).run bundle = .ok () rendered := by
  cases reply with
  | error cause => contradiction
  | ok result =>
    change (bundleOf result).bind router.modified = .ok rendered at h
    cases hbundle : bundleOf result with
    | error e =>
      rw [hbundle] at h
      contradiction
    | ok bundle =>
      rw [hbundle] at h
      change router.modified bundle = .ok rendered at h
      unfold modified at h
      split at h <;> cases h
      next hrun => exact ⟨result, bundle, rfl, hbundle, hrun⟩

theorem quiet_of_prepare {result : Except ReconcileError Bundle}
    (h : Runs respond router.prepare s exchanges after result) : Quiet exchanges := by
  cases hcertificate : router.certificate with
  | error e =>
    obtain ⟨rfl, -, -⟩ := h.unique (runs_prepare_of_error hcertificate s)
    exact quiet_nil
  | ok certificate =>
    obtain ⟨rfl, -, -⟩ := h.unique (runs_prepare hcertificate s)
    exact quiet_singleton rfl

/-- A bundle was rendered: this was asked for last, and `rendered` was made out of the reply. -/
structure RenderedBy (router : Router) (exchanges : List Exchange) (rendered : Bundle) : Prop where
  reply : ∃ certificate result bundle,
    exchanges.getLast? = some ⟨router.rendering certificate, .ok result⟩ ∧
      bundleOf result = .ok bundle ∧
      (∀ kind ∈ renderedKinds, bundle.contains kind = true) ∧
      (addModifications router.settings.edits).run bundle = .ok () rendered
  ordered : rendered.Ordered

theorem RenderedBy.append {first second : List Exchange} {rendered : Bundle}
    (h : router.RenderedBy second rendered) : router.RenderedBy (first ++ second) rendered := by
  obtain ⟨certificate, result, bundle, hlast, hbundle⟩ := h.reply
  refine ⟨⟨certificate, result, bundle, ?_, hbundle⟩, h.ordered⟩
  rw [List.getLast?_append, hlast, Option.some_or]

theorem renderedBy_of_prepare {rendered : Bundle}
    (h : Runs respond router.prepare s exchanges after (.ok rendered)) :
    router.RenderedBy exchanges rendered := by
  cases hcertificate : router.certificate with
  | error e =>
    obtain ⟨-, -, hresult⟩ := h.unique (runs_prepare_of_error hcertificate s)
    contradiction
  | ok certificate =>
    obtain ⟨rfl, -, hresult⟩ := h.unique (runs_prepare hcertificate s)
    obtain ⟨result, bundle, hreply, hbundle, hrun⟩ := exists_of_prepared_ok hresult.symm
    obtain ⟨hordered, hkinds⟩ := ordered_of_bundleOf hbundle
    exact ⟨⟨certificate, result, bundle, by rw [hreply]; rfl, hbundle, hkinds, hrun⟩,
      ordered_of_addModifications hordered hrun⟩

/-! ### The ways in which a pass can go -/

/-- A pass has observed and rendered, and this is what it has seen on the way. -/
inductive Prepared (respond : σ → Request → Reply × σ) (router : Router) (s : σ) :
    List Exchange → Bundle → Bundle → Prop where
  | mk {first second : List Exchange} {middle after : σ} {observed rendered : Bundle} :
    Runs respond router.observe s first middle (.ok observed) →
      Runs respond router.prepare middle second after (.ok rendered) →
      Prepared respond router s (first ++ second) observed rendered

theorem Prepared.quiet {observed rendered : Bundle}
    (h : Prepared respond router s exchanges observed rendered) : Quiet exchanges := by
  obtain ⟨hobserve, hprepare⟩ := h
  exact (quiet_of_observe hobserve).append (quiet_of_prepare hprepare)

theorem Prepared.renderedBy {observed rendered : Bundle}
    (h : Prepared respond router s exchanges observed rendered) :
    router.RenderedBy exchanges rendered := by
  obtain ⟨-, hprepare⟩ := h
  exact (renderedBy_of_prepare hprepare).append

/-- The ways in which a pass can go: it changes nothing, deletes what is not wanted, creates what is
missing, or replaces what has drifted, where the deletions may fail. -/
inductive Course (respond : σ → Request → Reply × σ) (router : Router) (s : σ) :
    List Exchange → Except ReconcileError Status → Prop where
  | quiet {seen : List Exchange} {result : Except ReconcileError Status} :
    Quiet seen →
      (∀ status, result = .ok status → status.changed = true → router.checkOnly = true) →
      Course respond router s seen result
  | deleting {seen deleted : List Exchange} {found : Except ReconcileError (List CommandResult)} :
    router.checkOnly = false → router.settings.state = .absent → Quiet seen →
      Attempted .delete "not found" deletionOf router.settings.parts deleted found →
      Course respond router s (seen ++ deleted) (found.map (.done .absent))
  | creating {seen created : List Exchange} {observed rendered : Bundle}
      {found : Except ReconcileError (List CommandResult)} :
    router.checkOnly = false → router.settings.state = .present →
      Prepared respond router s seen observed rendered →
      Attempted .create "already exist" router.creationOf rendered.manifests created found →
      Course respond router s (seen ++ created) (found.map (.done .present))
  | notReplacing {seen deleted : List Exchange} {observed rendered : Bundle} {e : ReconcileError} :
    router.checkOnly = false → router.settings.state = .present →
      Prepared respond router s seen observed rendered →
      needsUpdate router.settings observed rendered = .ok true →
      Attempted .delete "not found" deletionOf router.settings.parts deleted (.error e) →
      Course respond router s (seen ++ deleted) (.error e)
  | replacing {seen deleted created : List Exchange} {observed rendered : Bundle}
      {results : List CommandResult} {found : Except ReconcileError (List CommandResult)} :
    router.checkOnly = false → router.settings.state = .present →
      Prepared respond router s seen observed rendered →
      needsUpdate router.settings observed rendered = .ok true →
      Attempted .delete "not found" deletionOf router.settings.parts deleted (.ok results) →
      Attempted .create "already exist" router.creationOf rendered.manifests created found →
      Course respond router s (seen ++ (deleted ++ created))
        (found.map fun more ↦ .done .present (results ++ more))

theorem exists_of_map_done {found : Except ReconcileError (List CommandResult)}
    {done : List CommandResult → Status} {status : Status} (h : found.map done = .ok status) :
    ∃ results, found = .ok results ∧ status = done results := by
  cases found with
  | error e => contradiction
  | ok results =>
    cases h
    exact ⟨results, rfl, rfl⟩

theorem perform_of_checkOnly (hcheck : router.checkOnly = true) (action : Action)
    (bundle : Bundle) :
    router.perform action bundle = pure (.checked router.settings.state action) :=
  if_pos hcheck

theorem perform_create (hcheck : router.checkOnly = false) (bundle : Bundle) :
    router.perform .create bundle = .done router.settings.state <$> router.create bundle :=
  if_neg (by simp [hcheck])

theorem perform_update (hcheck : router.checkOnly = false) (bundle : Bundle) :
    router.perform .update bundle = .done router.settings.state <$> router.update bundle :=
  if_neg (by simp [hcheck])

theorem perform_delete (hcheck : router.checkOnly = false) (bundle : Bundle) :
    router.perform .delete bundle = .done router.settings.state <$> router.delete :=
  if_neg (by simp [hcheck])

/-- A pass that only checks ends in what it would do. -/
theorem course_of_checkOnly {action : Action} {bundle : Bundle} {seen performed : List Exchange}
    {start : σ} {result : Except ReconcileError Status} (hcheck : router.checkOnly = true)
    (hseen : Quiet seen)
    (h : Runs respond (router.perform action bundle) start performed after result) :
    Course respond router s (seen ++ performed) result := by
  rw [perform_of_checkOnly hcheck] at h
  obtain ⟨rfl, -, rfl⟩ := runs_pure_iff.mp h
  rw [List.append_nil]
  exact .quiet hseen fun _ _ _ ↦ hcheck

/-- A pass that finds nothing to do changes nothing. -/
theorem course_of_unchanged {state : State} {seen done : List Exchange} {start : σ}
    {result : Except ReconcileError Status} (hseen : Quiet seen)
    (h : Runs respond (pure (.unchanged state)) start done after result) :
    Course respond router s (seen ++ done) result := by
  obtain ⟨rfl, -, rfl⟩ := runs_pure_iff.mp h
  rw [List.append_nil]
  refine .quiet hseen fun status hstatus hchanged ↦ ?_
  cases hstatus
  contradiction

theorem course_of_failed {seen : List Exchange} {e : ReconcileError} (hseen : Quiet seen) :
    Course respond router s seen (.error e) :=
  .quiet hseen (by simp)

/-- What a pass goes on with once it has observed. -/
def proceed (router : Router) (observed : Bundle) : Reconciling Status :=
  match router.settings.state with
  | .absent =>
    if observed.manifests.isEmpty then pure (.unchanged .absent) else router.perform .delete {}
  | .present =>
    if observed.isDeployed then do
      let rendered ← router.prepare
      if ← decided (needsUpdate router.settings observed rendered) then
        router.perform .update rendered
      else pure (.unchanged .present)
    else if router.checkOnly then pure (.checked .present .create)
    else do router.perform .create (← router.prepare)

theorem run_eq (router : Router) : router.run = router.observe >>= router.proceed := by
  rw [run]
  congr
  funext observed
  unfold proceed
  cases router.settings.state <;> rfl

/-- A pass that has observed a deployed router and prepared goes on as the comparison tells. -/
theorem runs_run_of_needs {first second last : List Exchange} {middle later : σ}
    {observed rendered : Bundle} {needs : Bool} {result : Except ReconcileError Status}
    (hstate : router.settings.state = .present) (hdeployed : observed.isDeployed = true)
    (hobserve : Runs respond router.observe s first middle (.ok observed))
    (hprepare : Runs respond router.prepare middle second later (.ok rendered))
    (hneeds : needsUpdate router.settings observed rendered = .ok needs)
    (h : Runs respond (if needs then router.perform .update rendered else pure (.unchanged .present))
      later last after result) :
    Runs respond router.run s (first ++ (second ++ last)) after result := by
  rw [run_eq]
  refine hobserve.bind ?_
  simp only [proceed, hstate, if_pos hdeployed]
  refine hprepare.bind ?_
  rw [← List.nil_append last]
  exact (runs_decided_iff.mpr ⟨rfl, rfl, hneeds.symm⟩).bind h

/-- A replacement creates the rendered parts once all parts are deleted. -/
theorem runs_update_iff {rendered : Bundle} {result : Except ReconcileError (List CommandResult)} :
    Runs respond (router.update rendered) s exchanges after result ↔
      (∃ e, Runs respond router.delete s exchanges after (.error e) ∧ result = .error e) ∨
        ∃ results deleted middle created found,
          Runs respond router.delete s deleted middle (.ok results) ∧
            Runs respond (router.create rendered) middle created after found ∧
            exchanges = deleted ++ created ∧ result = found.map (results ++ ·) := by
  have hcreate (results : List CommandResult) {middle : σ} {created : List Exchange} :
      Runs respond (do let more ← router.create rendered; pure (results ++ more)) middle created
          after result ↔
        ∃ found, Runs respond (router.create rendered) middle created after found ∧
          result = found.map (results ++ ·) := by
    rw [← runs_map_iff]
    rfl
  constructor
  · intro h
    rcases runs_bind_iff.mp h with
      ⟨e, hdelete, rfl⟩ | ⟨results, deleted, middle, later, hdelete, hlater, rfl⟩
    · exact .inl ⟨e, hdelete, rfl⟩
    rcases runs_bind_iff.mp hlater with
      ⟨e, hsettle, -⟩ | ⟨waited, settled, middle', created, hsettle, hcreated, rfl⟩
    · obtain ⟨-, -, hnot⟩ := runs_settle_iff.mp hsettle
      contradiction
    obtain ⟨rfl, rfl, -⟩ := runs_settle_iff.mp hsettle
    obtain ⟨found, hfound, rfl⟩ := (hcreate results).mp hcreated
    exact .inr ⟨results, deleted, _, created, found, hdelete, hfound, rfl, rfl⟩
  · rintro (⟨e, hdelete, rfl⟩ | ⟨results, deleted, middle, created, found, hdelete, hfound, rfl, rfl⟩)
    · exact hdelete.bind_error
    · have hsettle : Runs respond settle middle [] middle (.ok ()) :=
        runs_settle_iff.mpr ⟨rfl, rfl, rfl⟩
      exact hdelete.bind (hsettle.bind ((hcreate results).mpr ⟨found, hfound, rfl⟩))

theorem course_of_update {seen updated : List Exchange} {observed rendered : Bundle} {start : σ}
    {result : Except ReconcileError (List CommandResult)} (hcheck : router.checkOnly = false)
    (hstate : router.settings.state = .present)
    (hprepared : Prepared respond router s seen observed rendered)
    (hneeds : needsUpdate router.settings observed rendered = .ok true)
    (h : Runs respond (router.update rendered) start updated after result) :
    Course respond router s (seen ++ updated) (result.map (.done .present)) := by
  rcases runs_update_iff.mp h with
    ⟨e, hdelete, rfl⟩ | ⟨results, deleted, middle, created, found, hdelete, hcreate, rfl, rfl⟩
  · exact .notReplacing hcheck hstate hprepared hneeds (attempted_of_runs hdelete)
  · have hcourse := Course.replacing hcheck hstate hprepared hneeds (attempted_of_runs hdelete)
      (attempted_of_runs hcreate)
    cases found <;> exact hcourse

theorem course_of_absent {seen later : List Exchange} {observed : Bundle} {start : σ}
    {result : Except ReconcileError Status} (hstate : router.settings.state = .absent)
    (hseen : Quiet seen) (h : Runs respond (router.proceed observed) start later after result) :
    Course respond router s (seen ++ later) result := by
  simp only [proceed, hstate] at h
  split at h
  · exact course_of_unchanged hseen h
  · cases hcheck : router.checkOnly with
    | true => exact course_of_checkOnly hcheck hseen h
    | false =>
      rw [perform_delete hcheck, hstate, runs_map_iff] at h
      obtain ⟨found, hdelete, rfl⟩ := h
      exact .deleting hcheck hstate hseen (attempted_of_runs hdelete)

/-- A pass compares what is deployed with what it prepares. -/
theorem course_of_deployed {seen later : List Exchange} {observed rendered : Bundle} {start : σ}
    {result : Except ReconcileError Status} (hstate : router.settings.state = .present)
    (hprepared : Prepared respond router s seen observed rendered)
    (h : Runs respond (do
      if ← decided (needsUpdate router.settings observed rendered) then
        router.perform .update rendered
      else pure (.unchanged .present)) start later after result) :
    Course respond router s (seen ++ later) result := by
  rcases runs_bind_iff.mp h with ⟨e, hneeds, rfl⟩ | ⟨needs, none, middle, done, hneeds, hdone, rfl⟩
  · obtain ⟨rfl, -, -⟩ := runs_decided_iff.mp hneeds
    rw [List.append_nil]
    exact course_of_failed hprepared.quiet
  obtain ⟨rfl, rfl, hanswer⟩ := runs_decided_iff.mp hneeds
  rw [List.nil_append]
  split at hdone
  · next htrue =>
    cases hcheck : router.checkOnly with
    | true => exact course_of_checkOnly hcheck hprepared.quiet hdone
    | false =>
      rw [perform_update hcheck, hstate, runs_map_iff] at hdone
      obtain ⟨found, hupdate, rfl⟩ := hdone
      rw [htrue] at hanswer
      exact course_of_update hcheck hstate hprepared hanswer.symm hupdate
  · exact course_of_unchanged hprepared.quiet hdone

theorem course_of_present {seen later : List Exchange} {observed : Bundle} {start : σ}
    {result : Except ReconcileError Status} (hstate : router.settings.state = .present)
    (hobserve : Runs respond router.observe s seen start (.ok observed))
    (h : Runs respond (router.proceed observed) start later after result) :
    Course respond router s (seen ++ later) result := by
  have hseen := quiet_of_observe hobserve
  simp only [proceed, hstate] at h
  split at h
  · rcases runs_bind_iff.mp h with
      ⟨e, hprepare, rfl⟩ | ⟨rendered, asked, middle, done, hprepare, hdone, rfl⟩
    · exact course_of_failed (hseen.append (quiet_of_prepare hprepare))
    · rw [← List.append_assoc]
      exact course_of_deployed hstate ⟨hobserve, hprepare⟩ hdone
  · cases hcheck : router.checkOnly with
    | true =>
      rw [hcheck, if_pos rfl] at h
      obtain ⟨rfl, -, rfl⟩ := runs_pure_iff.mp h
      rw [List.append_nil]
      exact .quiet hseen fun _ _ _ ↦ hcheck
    | false =>
      rw [hcheck, if_neg Bool.false_ne_true] at h
      rcases runs_bind_iff.mp h with
        ⟨e, hprepare, rfl⟩ | ⟨rendered, asked, middle, done, hprepare, hdone, rfl⟩
      · exact course_of_failed (hseen.append (quiet_of_prepare hprepare))
      · rw [perform_create hcheck, hstate, runs_map_iff] at hdone
        obtain ⟨found, hcreate, rfl⟩ := hdone
        rw [← List.append_assoc]
        exact .creating hcheck hstate ⟨hobserve, hprepare⟩ (attempted_of_runs hcreate)

/-- Every pass goes in one of these ways. -/
theorem course_of_run {result : Except ReconcileError Status}
    (h : Runs respond router.run s exchanges after result) :
    Course respond router s exchanges result := by
  rw [run_eq] at h
  rcases runs_bind_iff.mp h with
    ⟨e, hobserve, rfl⟩ | ⟨observed, seen, middle, later, hobserve, hlater, rfl⟩
  · exact course_of_failed (quiet_of_observe hobserve)
  cases hstate : router.settings.state with
  | absent => exact course_of_absent hstate (quiet_of_observe hobserve) hlater
  | present => exact course_of_present hstate hobserve hlater

end Router

end ClusterRouter
