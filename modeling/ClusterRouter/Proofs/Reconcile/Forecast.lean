import ClusterRouter.Proofs.Reconcile.Convergence

/-!
# A pass that only checks foretells the real one

A pass that only checks and one that acts are run against two parties that need not be the same, nor
be alike in what they keep. All that is asked of them is that they reply alike to requests that only
look. Both passes then look in the same way and reach the same decision, so the status of the first
tells which requests the second makes, unless a command fails.

Nothing is told of the requests that act: the parties may answer these differently.
-/

namespace ClusterRouter

open Program (Exchange Outcome)

namespace Request

/-- The request asks for what is there, or for what would be rendered. -/
def looks : Request → Bool
  | .render .. | .get .. => true
  | .create .. | .delete .. | .replace .. | .process .. => false

end Request

namespace Reconcile

variable {σ τ α β : Type} {respond : σ → Request → Reply × σ} {respond' : τ → Request → Reply × τ}
  {s : σ} {t : τ}

/-! ### Parties that are alike -/

/-- The replies to requests in a row. -/
def replies (respond : σ → Request → Reply × σ) : List Request → σ → List Reply
  | [], _ => []
  | request :: requests, s =>
    (respond s request).1 :: replies respond requests (respond s request).2

/-- The parties reply alike to all requests in a row that only look. -/
def Alike (respond : σ → Request → Reply × σ) (respond' : τ → Request → Reply × τ) (s : σ) (t : τ) :
    Prop :=
  ∀ requests, (∀ request ∈ requests, request.looks = true) →
    replies respond requests s = replies respond' requests t

/-- Parties that are alike reply alike to one more look, and are alike after it. -/
theorem Alike.step (h : Alike respond respond' s t) {request : Request}
    (hlooks : request.looks = true) :
    (respond s request).1 = (respond' t request).1 ∧
      Alike respond respond' (respond s request).2 (respond' t request).2 := by
  have hall (requests : List Request) (hrequests : ∀ request ∈ requests, request.looks = true) :=
    List.cons.inj (h (request :: requests) (List.forall_mem_cons.mpr ⟨hlooks, hrequests⟩))
  exact ⟨(hall [] (by simp)).1, fun requests hrequests ↦ (hall requests hrequests).2⟩

/-- Parties that treat each single look alike are alike. -/
theorem alike_of_looks {respond respond' : σ → Request → Reply × σ}
    (h : ∀ s request, request.looks = true → respond s request = respond' s request) (s : σ) :
    Alike respond respond' s s := by
  intro requests hrequests
  induction requests generalizing s with
  | nil => rfl
  | cons request requests ih =>
    obtain ⟨hrequest, hrest⟩ := List.forall_mem_cons.mp hrequests
    rw [replies, replies, h s request hrequest, ih _ hrest]

/-! ### Reconciliations that only look -/

/-- Against parties that are alike, both runs of `x` make the same exchanges, have the same result
and leave the parties alike. -/
def RunsAlike (respond : σ → Request → Reply × σ) (respond' : τ → Request → Reply × τ)
    (x : Reconciling α) : Prop :=
  ∀ s t, Alike respond respond' s t → ∃ exchanges after after' result,
    Runs respond x s exchanges after result ∧ Runs respond' x t exchanges after' result ∧
      Alike respond respond' after after'

theorem runsAlike_decided (outcome : Except ReconcileError α) :
    RunsAlike respond respond' (decided outcome) :=
  fun s t halike ↦ ⟨[], s, t, outcome, runs_decided_iff.mpr ⟨rfl, rfl, rfl⟩,
    runs_decided_iff.mpr ⟨rfl, rfl, rfl⟩, halike⟩

theorem runsAlike_pure (a : α) : RunsAlike respond respond' (pure a) := runsAlike_decided (.ok a)

theorem runsAlike_throw (e : ReconcileError) :
    RunsAlike respond respond' (throw e : Reconciling α) :=
  runsAlike_decided (.error e)

theorem runsAlike_ask {request : Request} (hlooks : request.looks = true) :
    RunsAlike respond respond' (ask request) := by
  intro s t halike
  obtain ⟨hreply, hafter⟩ := halike.step hlooks
  refine ⟨_, _, _, _, runs_ask_iff.mpr ⟨rfl, rfl, rfl⟩, runs_ask_iff.mpr ⟨?_, rfl, ?_⟩, hafter⟩
  · rw [hreply]
  · rw [hreply]

theorem RunsAlike.bind {x : Reconciling α} {f : α → Reconciling β}
    (hx : RunsAlike respond respond' x) (hf : ∀ a, RunsAlike respond respond' (f a)) :
    RunsAlike respond respond' (x >>= f) := by
  intro s t halike
  obtain ⟨first, middle, middle', found, hfirst, hfirst', hmiddle⟩ := hx s t halike
  cases found with
  | error e => exact ⟨first, middle, middle', .error e, hfirst.bind_error, hfirst'.bind_error, hmiddle⟩
  | ok a =>
    obtain ⟨second, after, after', result, hsecond, hsecond', hafter⟩ := hf a middle middle' hmiddle
    exact ⟨first ++ second, after, after', result, hfirst.bind hsecond, hfirst'.bind hsecond', hafter⟩

/-- Two reconciliations that begin with the same looking: either both end with its failure, or they
go on from parties that are alike with what it has found. -/
theorem RunsAlike.runs_bind {x : Reconciling α} {f f' : α → Reconciling β}
    (hx : RunsAlike respond respond' x) (halike : Alike respond respond' s t)
    {exchanges exchanges' : List Exchange} {after : σ} {after' : τ}
    {result result' : Except ReconcileError β}
    (h : Runs respond (x >>= f) s exchanges after result)
    (h' : Runs respond' (x >>= f') t exchanges' after' result') :
    (∃ e, Runs respond x s exchanges after (.error e) ∧ exchanges' = exchanges ∧
        result = .error e ∧ result' = .error e) ∨
      ∃ a first middle middle' second second', Alike respond respond' middle middle' ∧
        Runs respond x s first middle (.ok a) ∧ Runs respond (f a) middle second after result ∧
        Runs respond' (f' a) middle' second' after' result' ∧
        exchanges = first ++ second ∧ exchanges' = first ++ second' := by
  obtain ⟨first, middle, middle', found, hfirst, hfirst', hmiddle⟩ := hx s t halike
  cases found with
  | error e =>
    obtain ⟨rfl, rfl, rfl⟩ := h.unique hfirst.bind_error
    obtain ⟨rfl, rfl, rfl⟩ := h'.unique hfirst'.bind_error
    exact .inl ⟨e, hfirst, rfl, rfl, rfl⟩
  | ok a =>
    have hsecond : Runs respond (f a) middle _ _ _ := runs_of_run (f a) middle
    have hsecond' : Runs respond' (f' a) middle' _ _ _ := runs_of_run (f' a) middle'
    obtain ⟨rfl, rfl, rfl⟩ := h.unique (hfirst.bind hsecond)
    obtain ⟨rfl, rfl, rfl⟩ := h'.unique (hfirst'.bind hsecond')
    exact .inr ⟨a, first, middle, middle', _, _, hmiddle, hfirst, hsecond, hsecond', rfl, rfl⟩

theorem runsAlike_observePart (part : Part) (bundle : Bundle) :
    RunsAlike respond respond' (observePart part bundle) := by
  refine (runsAlike_ask rfl).bind fun result ↦ ?_
  split <;> exact runsAlike_pure _

theorem runsAlike_observeParts (parts : List Part) (bundle : Bundle) :
    RunsAlike respond respond' (observeParts parts bundle) := by
  induction parts generalizing bundle with
  | nil => exact runsAlike_pure bundle
  | cons part parts ih => exact (runsAlike_observePart part bundle).bind fun seen ↦ ih seen

end Reconcile

namespace Router

open Reconcile

variable {σ τ : Type} {respond : σ → Request → Reply × σ} {respond' : τ → Request → Reply × τ}
  {router : Router} {s : σ} {t : τ}

theorem runsAlike_observe (router : Router) : RunsAlike respond respond' router.observe :=
  runsAlike_observeParts router.settings.parts {}

theorem runsAlike_prepare (router : Router) : RunsAlike respond respond' router.prepare := by
  refine (runsAlike_decided router.certificate).bind fun certificate ↦
    (runsAlike_ask rfl).bind fun reply ↦ (runsAlike_decided (bundleOf reply)).bind fun bundle ↦ ?_
  split
  · exact runsAlike_pure _
  · exact runsAlike_throw _

/-! ### Both passes -/

/-- What a pass that acts does after both have looked, and how the two of them end: alike and without
more exchanges, or the first one where the second begins to act. -/
inductive Parting (router : Router) :
    Except ReconcileError Status → List Exchange → Except ReconcileError Status → Prop where
  | alike {result : Except ReconcileError Status} :
    (∀ status, result = .ok status → status = .unchanged router.settings.state) →
      Parting router result [] result
  | deleting {deleted : List Exchange} {found : Except ReconcileError (List CommandResult)} :
    router.settings.state = .absent →
      Attempted .delete "not found" deletionOf router.settings.parts deleted found →
      Parting router (.ok (.checked .absent .delete)) deleted (found.map (.done .absent))
  | notPreparing {asked : List Exchange} {e : ReconcileError} :
    router.settings.state = .present → Quiet asked →
      Parting router (.ok (.checked .present .create)) asked (.error e)
  | creating {asked created : List Exchange} {rendered : Bundle}
      {found : Except ReconcileError (List CommandResult)} :
    router.settings.state = .present → Quiet asked → rendered.manifests ≠ [] →
      Attempted .create "already exist" router.creationOf rendered.manifests created found →
      Parting router (.ok (.checked .present .create)) (asked ++ created)
        (found.map (.done .present))
  | notReplacing {deleted : List Exchange} {e : ReconcileError} :
    router.settings.state = .present →
      Attempted .delete "not found" deletionOf router.settings.parts deleted (.error e) →
      Parting router (.ok (.checked .present .update)) deleted (.error e)
  | replacing {deleted created : List Exchange} {rendered : Bundle}
      {results : List CommandResult} {found : Except ReconcileError (List CommandResult)} :
    router.settings.state = .present →
      Attempted .delete "not found" deletionOf router.settings.parts deleted (.ok results) →
      Attempted .create "already exist" router.creationOf rendered.manifests created found →
      Parting router (.ok (.checked .present .update)) (deleted ++ created)
        (found.map fun more ↦ .done .present (results ++ more))

/-- A pass that only checks and one that acts look in the same way and part then. -/
structure Paired (router : Router) (checks : List Exchange)
    (checked : Except ReconcileError Status) (exchanges : List Exchange)
    (result : Except ReconcileError Status) : Prop where
  quiet : Quiet checks
  parting : ∃ acted, exchanges = checks ++ acted ∧ Parting router checked acted result

theorem Parting.paired {checked result : Except ReconcileError Status} {acted : List Exchange}
    (h : router.Parting checked acted result) : router.Paired [] checked acted result :=
  ⟨quiet_nil, acted, rfl, h⟩

/-- A failure in looking ends both passes. -/
theorem paired_of_failed {seen : List Exchange} (hseen : Quiet seen) (e : ReconcileError) :
    router.Paired seen (.error e) seen (.error e) :=
  ⟨hseen, [], (List.append_nil seen).symm, .alike (by simp)⟩

/-- The passes may have looked before. -/
theorem Paired.prepend {checks exchanges seen : List Exchange}
    {checked result : Except ReconcileError Status}
    (h : router.Paired checks checked exchanges result) (hseen : Quiet seen) :
    router.Paired (seen ++ checks) checked (seen ++ exchanges) result := by
  obtain ⟨hquiet, acted, rfl, hparting⟩ := h
  exact ⟨hseen.append hquiet, acted, (List.append_assoc _ _ _).symm, hparting⟩

section

variable {checks exchanges : List Exchange} {after : σ} {after' : τ}
  {checked result : Except ReconcileError Status} {observed rendered : Bundle}

theorem paired_of_unchanged {state : State} (hstate : router.settings.state = state)
    (hcheck : Runs respond (pure (.unchanged state)) s checks after checked)
    (hact : Runs respond' (pure (.unchanged state)) t exchanges after' result) :
    router.Paired checks checked exchanges result := by
  obtain ⟨rfl, -, rfl⟩ := runs_pure_iff.mp hcheck
  obtain ⟨rfl, -, rfl⟩ := runs_pure_iff.mp hact
  refine (Parting.alike fun status hstatus ↦ ?_).paired
  cases hstatus
  rw [hstate]

theorem paired_of_delete (hstate : router.settings.state = .absent)
    (hcheck : Runs respond (pure (.checked .absent .delete)) s checks after checked)
    (hact : Runs respond' (.done .absent <$> router.delete) t exchanges after' result) :
    router.Paired checks checked exchanges result := by
  obtain ⟨rfl, -, rfl⟩ := runs_pure_iff.mp hcheck
  obtain ⟨found, hdelete, rfl⟩ := runs_map_iff.mp hact
  exact (Parting.deleting hstate (attempted_of_runs hdelete)).paired

theorem paired_of_update (hstate : router.settings.state = .present)
    (hcheck : Runs respond (pure (.checked .present .update)) s checks after checked)
    (hact : Runs respond' (.done .present <$> router.update rendered) t exchanges after' result) :
    router.Paired checks checked exchanges result := by
  obtain ⟨rfl, -, rfl⟩ := runs_pure_iff.mp hcheck
  obtain ⟨all, hupdate, rfl⟩ := runs_map_iff.mp hact
  rcases runs_update_iff.mp hupdate with
    ⟨e, hdelete, rfl⟩ | ⟨results, deleted, middle, created, found, hdelete, hcreate, rfl, rfl⟩
  · exact (Parting.notReplacing hstate (attempted_of_runs hdelete)).paired
  · have hparting := Parting.replacing hstate (attempted_of_runs hdelete)
      (attempted_of_runs hcreate)
    cases found <;> exact hparting.paired

theorem manifests_ne_nil_of_prepare
    (h : Runs respond router.prepare s exchanges after (.ok rendered)) :
    rendered.manifests ≠ [] := by
  obtain ⟨manifest, hmanifest, -⟩ :=
    (rendered_of_prepare h).exists_get? .deploymentConfig (by decide)
  exact List.ne_nil_of_mem (List.mem_of_find?_eq_some hmanifest)

theorem paired_of_create (hstate : router.settings.state = .present)
    (hcheck : Runs respond (pure (.checked .present .create)) s checks after checked)
    (hact : Runs respond' (do .done .present <$> router.create (← router.prepare)) t exchanges
      after' result) :
    router.Paired checks checked exchanges result := by
  obtain ⟨rfl, -, rfl⟩ := runs_pure_iff.mp hcheck
  rcases runs_bind_iff.mp hact with
    ⟨e, hprepare, rfl⟩ | ⟨rendered, asked, middle, created, hprepare, hdone, rfl⟩
  · exact (Parting.notPreparing hstate (quiet_of_prepare hprepare)).paired
  · obtain ⟨found, hcreate, rfl⟩ := runs_map_iff.mp hdone
    exact (Parting.creating hstate (quiet_of_prepare hprepare)
      (manifests_ne_nil_of_prepare hprepare) (attempted_of_runs hcreate)).paired

/-- Both passes prepare and compare in the same way. -/
theorem paired_of_deployed (halike : Alike respond respond' s t)
    (hstate : router.settings.state = .present)
    (hcheck : Runs respond (do
      let rendered ← router.prepare
      if ← decided (needsUpdate router.settings observed rendered) then
        pure (.checked .present .update)
      else pure (.unchanged .present)) s checks after checked)
    (hact : Runs respond' (do
      let rendered ← router.prepare
      if ← decided (needsUpdate router.settings observed rendered) then
        .done .present <$> router.update rendered
      else pure (.unchanged .present)) t exchanges after' result) :
    router.Paired checks checked exchanges result := by
  rcases (runsAlike_prepare router).runs_bind halike hcheck hact with
    ⟨e, hprepare, rfl, rfl, rfl⟩ |
      ⟨rendered, asked, middle, middle', later, later', hmiddle, hprepare, hlater, hlater', rfl, rfl⟩
  · exact paired_of_failed (quiet_of_prepare hprepare) e
  refine Paired.prepend ?_ (quiet_of_prepare hprepare)
  rcases (runsAlike_decided _).runs_bind hmiddle hlater hlater' with
    ⟨e, hneeds, rfl, rfl, rfl⟩ | ⟨needs, none, _, _, last, last', -, hneeds, hlast, hlast', rfl, rfl⟩
  · obtain ⟨rfl, -, -⟩ := runs_decided_iff.mp hneeds
    exact paired_of_failed quiet_nil e
  obtain ⟨rfl, -, -⟩ := runs_decided_iff.mp hneeds
  refine Paired.prepend ?_ quiet_nil
  cases needs with
  | true => exact paired_of_update hstate hlast hlast'
  | false => exact paired_of_unchanged hstate hlast hlast'

/-- Once both passes have observed the same, they go on together. -/
theorem paired_of_proceed (halike : Alike respond respond' s t)
    (hcheck : Runs respond ({ router with checkOnly := true }.proceed observed) s checks after
      checked)
    (hact : Runs respond' ({ router with checkOnly := false }.proceed observed) t exchanges after'
      result) :
    router.Paired checks checked exchanges result := by
  have hchecks : ({ router with checkOnly := true } : Router).checkOnly = true := rfl
  have hacts : ({ router with checkOnly := false } : Router).checkOnly = false := rfl
  cases hstate : router.settings.state with
  | absent =>
    simp only [proceed, hstate, perform_of_checkOnly hchecks, perform_delete hacts] at hcheck hact
    split at hcheck
    · next hempty =>
      rw [if_pos hempty] at hact
      exact paired_of_unchanged hstate hcheck hact
    · next hsome =>
      rw [if_neg hsome] at hact
      exact paired_of_delete hstate hcheck hact
  | present =>
    simp only [proceed, hstate, perform_of_checkOnly hchecks, perform_update hacts,
      perform_create hacts, if_true, if_neg Bool.false_ne_true] at hcheck hact
    split at hcheck
    · next hdeployed =>
      rw [if_pos hdeployed] at hact
      exact paired_of_deployed halike hstate hcheck hact
    · next hmissing =>
      rw [if_neg hmissing] at hact
      exact paired_of_create hstate hcheck hact

theorem paired_of_run (halike : Alike respond respond' s t)
    (hcheck : Runs respond { router with checkOnly := true }.run s checks after checked)
    (hact : Runs respond' { router with checkOnly := false }.run t exchanges after' result) :
    router.Paired checks checked exchanges result := by
  rw [run_eq] at hcheck hact
  rcases (runsAlike_observe router).runs_bind halike hcheck hact with
    ⟨e, hobserve, rfl, rfl, rfl⟩ |
      ⟨observed, seen, middle, middle', later, later', hmiddle, hobserve, hlater, hlater', rfl, rfl⟩
  · exact paired_of_failed (quiet_of_observe hobserve) e
  · exact (paired_of_proceed hmiddle hlater hlater').prepend (quiet_of_observe hobserve)

end

/-! ### The forecast -/

/-- The pass has ended with a status that says what is to be done. -/
def Reports (result : Except ReconcileError Status) (action : Action) : Prop :=
  ∃ status, result = .ok status ∧ status.message = some action.checkMessage

/-- The pass tells of a change unless it has failed. -/
def ChangesOrFails (result : Except ReconcileError Status) : Prop :=
  ∀ status, result = .ok status → status.changed = true

/-- What a pass that only checks foretells of one that acts. -/
structure Forecast (router : Router) (check : Outcome σ (Except ReconcileError Status))
    (act : Outcome τ (Except ReconcileError Status)) : Prop where
  /-- Both passes begin with the same looking, and that is all that the first one does. -/
  begins : Quiet check.exchanges ∧ check.exchanges <+: act.exchanges
  unchanged : ∀ status, status.changed = false →
    (check.result = .ok status ↔ act.result = .ok status)
  failed : ∀ e, check.result = .error e → act.result = .error e ∧ Quiet act.exchanges
  /-- A change that is foretold is one of the three below. -/
  reported : ∀ status, check.result = .ok status → status.changed = true →
    ∃ action ∈ [Action.create, .delete, .update], status = .checked router.settings.state action
  creates : Reports check.result .create →
    deletions act.exchanges = [] ∧ ((∃ e, act.result = .error e) ∨ creations act.exchanges ≠ []) ∧
      ChangesOrFails act.result
  deletes : Reports check.result .delete →
    deletions act.exchanges ≠ [] ∧ creations act.exchanges = [] ∧ ChangesOrFails act.result
  updates : Reports check.result .update →
    (∃ deleted created, act.exchanges = check.exchanges ++ (deleted ++ created) ∧ deleted ≠ [] ∧
      (∀ exchange ∈ deleted, exchange.request.isDelete = true) ∧
      ∀ exchange ∈ created, exchange.request.isCreate = true) ∧ ChangesOrFails act.result

theorem checkMessage_injective : Function.Injective Action.checkMessage := by
  intro first second h
  cases first <;> cases second <;> first | rfl | exact absurd h (by decide)

theorem reports_checked_iff {state : State} {action other : Action} :
    Reports (.ok (.checked state action)) other ↔ action = other := by
  constructor
  · rintro ⟨status, ⟨⟩, hmessage⟩
    exact checkMessage_injective (Option.some_inj.mp hmessage)
  · rintro rfl
    exact ⟨_, rfl, rfl⟩

theorem not_reports_of_unchanged {state : State} {result : Except ReconcileError Status}
    (h : ∀ status, result = .ok status → status = .unchanged state) {action : Action} :
    ¬ Reports result action := by
  rintro ⟨status, hstatus, hmessage⟩
  rw [h status hstatus] at hmessage
  contradiction

theorem changesOrFails_map {found : Except ReconcileError (List CommandResult)} {state : State}
    {results : List CommandResult → List CommandResult} :
    ChangesOrFails (found.map fun more ↦ .done state (results more)) := by
  intro status hstatus
  obtain ⟨more, -, rfl⟩ := exists_of_map_done hstatus
  rfl

theorem changesOrFails_error (e : ReconcileError) : ChangesOrFails (.error e) := by
  simp [ChangesOrFails]

namespace Paired

variable {checks exchanges : List Exchange} {checked result : Except ReconcileError Status}
  (h : router.Paired checks checked exchanges result)

include h

theorem begins : Quiet checks ∧ checks <+: exchanges := by
  obtain ⟨hquiet, acted, rfl, -⟩ := h
  exact ⟨hquiet, List.prefix_append _ _⟩

/-- Unless both passes end alike, both tell of a change or the acting one fails. -/
theorem eq_or_changes :
    (checks = exchanges ∧ checked = result ∧
      ∀ status, result = .ok status → status = .unchanged router.settings.state) ∨
      (∃ action ∈ [Action.create, .delete, .update],
        checked = .ok (.checked router.settings.state action)) ∧ ChangesOrFails result := by
  obtain ⟨-, acted, rfl, hparting⟩ := h
  cases hparting with
  | alike hunchanged => exact .inl ⟨(List.append_nil checks).symm, rfl, hunchanged⟩
  | deleting hstate => exact .inr ⟨⟨.delete, by simp, by rw [hstate]⟩, changesOrFails_map⟩
  | notPreparing hstate =>
    exact .inr ⟨⟨.create, by simp, by rw [hstate]⟩, changesOrFails_error _⟩
  | creating hstate => exact .inr ⟨⟨.create, by simp, by rw [hstate]⟩, changesOrFails_map⟩
  | notReplacing hstate => exact .inr ⟨⟨.update, by simp, by rw [hstate]⟩, changesOrFails_error _⟩
  | replacing hstate => exact .inr ⟨⟨.update, by simp, by rw [hstate]⟩, changesOrFails_map⟩

theorem unchanged {status : Status} (hunchanged : status.changed = false) :
    checked = .ok status ↔ result = .ok status := by
  rcases h.eq_or_changes with ⟨-, rfl, -⟩ | ⟨⟨action, -, rfl⟩, hchanges⟩
  · rfl
  · constructor
    · rintro ⟨⟩
      contradiction
    · intro hresult
      simp [hchanges status hresult] at hunchanged

theorem failed {e : ReconcileError} (he : checked = .error e) :
    result = .error e ∧ Quiet exchanges := by
  rcases h.eq_or_changes with ⟨rfl, rfl, -⟩ | ⟨⟨action, -, rfl⟩, -⟩
  · exact ⟨he, h.begins.1⟩
  · contradiction

theorem reported {status : Status} (hstatus : checked = .ok status) (hchanged : status.changed = true) :
    ∃ action ∈ [Action.create, .delete, .update], status = .checked router.settings.state action := by
  rcases h.eq_or_changes with ⟨-, rfl, hunchanged⟩ | ⟨⟨action, haction, rfl⟩, -⟩
  · rw [hunchanged status hstatus] at hchanged
    contradiction
  · cases hstatus
    exact ⟨action, haction, rfl⟩

/-- What is reported is going to be done or to fail. -/
theorem changesOrFails {action : Action} (hreports : Reports checked action) :
    ChangesOrFails result := by
  rcases h.eq_or_changes with ⟨-, rfl, hunchanged⟩ | ⟨-, hchanges⟩
  · exact absurd hreports (not_reports_of_unchanged hunchanged)
  · exact hchanges

theorem creates (hreports : Reports checked .create) :
    deletions exchanges = [] ∧ ((∃ e, result = .error e) ∨ creations exchanges ≠ []) := by
  obtain ⟨hquiet, acted, rfl, hparting⟩ := h
  rw [deletions_append, creations_append, hquiet.deletions, hquiet.creations]
  cases hparting with
  | alike hunchanged => exact absurd hreports (not_reports_of_unchanged hunchanged)
  | notPreparing _ hasked => exact ⟨hasked.deletions, .inl ⟨_, rfl⟩⟩
  | creating _ hasked hsome hcreated =>
    obtain ⟨hcreations, hdeletions, -⟩ := creations_of_attempted hcreated
    rw [deletions_append, creations_append, hasked.deletions, hasked.creations, hdeletions,
      hcreations]
    refine ⟨rfl, (hcreated.exchanges_ne_nil_or_error hsome).symm.imp_left ?_⟩
    rintro ⟨e, rfl⟩
    exact ⟨e, rfl⟩
  | _ => simp [reports_checked_iff] at hreports

theorem deletes (hreports : Reports checked .delete) :
    deletions exchanges ≠ [] ∧ creations exchanges = [] := by
  obtain ⟨hquiet, acted, rfl, hparting⟩ := h
  rw [deletions_append, creations_append, hquiet.deletions, hquiet.creations]
  cases hparting with
  | alike hunchanged => exact absurd hreports (not_reports_of_unchanged hunchanged)
  | deleting _ hdeleted =>
    obtain ⟨hdeletions, hcreations, -⟩ := deletions_of_attempted hdeleted
    rw [hdeletions, hcreations]
    exact ⟨hdeleted.exchanges_ne_nil (fun _ ↦ rfl) router.parts_ne_nil, rfl⟩
  | _ => simp [reports_checked_iff] at hreports

theorem updates (hreports : Reports checked .update) :
    ∃ deleted created, exchanges = checks ++ (deleted ++ created) ∧ deleted ≠ [] ∧
      (∀ exchange ∈ deleted, exchange.request.isDelete = true) ∧
      ∀ exchange ∈ created, exchange.request.isCreate = true := by
  obtain ⟨-, acted, rfl, hparting⟩ := h
  cases hparting with
  | alike hunchanged => exact absurd hreports (not_reports_of_unchanged hunchanged)
  | notReplacing _ hdeleted =>
    exact ⟨acted, [], by rw [List.append_nil],
      hdeleted.exchanges_ne_nil (fun _ ↦ rfl) router.parts_ne_nil,
      List.filter_eq_self.mp (deletions_of_attempted hdeleted).1, by simp⟩
  | replacing _ hdeleted hcreated =>
    exact ⟨_, _, rfl, hdeleted.exchanges_ne_nil (fun _ ↦ rfl) router.parts_ne_nil,
      List.filter_eq_self.mp (deletions_of_attempted hdeleted).1,
      List.filter_eq_self.mp (creations_of_attempted hcreated).1⟩
  | _ => simp [reports_checked_iff] at hreports

end Paired

/-- A pass that only checks foretells what one that acts does, whatever parties they ask, as long as
these reply alike to requests that only look. -/
theorem run_foretold (router : Router) (halike : Alike respond respond' s t) :
    Forecast router (Program.run respond { router with checkOnly := true }.run.run s)
      (Program.run respond' { router with checkOnly := false }.run.run t) := by
  have hpaired := paired_of_run halike (runs_of_run { router with checkOnly := true }.run s)
    (runs_of_run { router with checkOnly := false }.run t)
  exact {
    begins := hpaired.begins
    unchanged := fun _ ↦ hpaired.unchanged
    failed := fun _ ↦ hpaired.failed
    reported := fun _ ↦ hpaired.reported
    creates := fun hreports ↦
      ⟨(hpaired.creates hreports).1, (hpaired.creates hreports).2, hpaired.changesOrFails hreports⟩
    deletes := fun hreports ↦
      ⟨(hpaired.deletes hreports).1, (hpaired.deletes hreports).2, hpaired.changesOrFails hreports⟩
    updates := fun hreports ↦ ⟨hpaired.updates hreports, hpaired.changesOrFails hreports⟩ }

/-- A cluster on which one may look at everything and change nothing. -/
def respondToLooks (cluster : Cluster) (request : Request) : Reply × Cluster :=
  if request.looks then cluster.respond request else (.ok (Cluster.failed "oc" "forbidden"), cluster)

theorem alike_respondToLooks (cluster : Cluster) :
    Alike Cluster.respond respondToLooks cluster cluster :=
  alike_of_looks (fun _ _ hlooks ↦ (if_pos hlooks).symm) cluster

/-- The creation that is foretold on a cluster fails where nothing may be changed. -/
theorem run_foretold_of_forbidden :
    Reports (Program.run Cluster.respond { smallRouter with checkOnly := true }.run.run
        smallCluster).result .create ∧
      Alike Cluster.respond respondToLooks smallCluster smallCluster ∧
      Forecast smallRouter
        (Program.run Cluster.respond { smallRouter with checkOnly := true }.run.run smallCluster)
        (Program.run respondToLooks { smallRouter with checkOnly := false }.run.run smallCluster) :=
  ⟨⟨_, rfl, rfl⟩, alike_respondToLooks smallCluster,
    smallRouter.run_foretold (alike_respondToLooks smallCluster)⟩

end Router

end ClusterRouter
