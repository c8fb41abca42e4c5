import ClusterRouter.Proofs.Reconcile.Pass

/-!
# Gated mutating requests

Whatever a cluster answers, a pass issues mutating requests only where they are called for and in a
fixed order: nothing while it only checks, finds no drift or fails early; the deletions in the order
of the parts, wherever it decides on them; and the creations after all deletions, each of which went
well or found nothing to delete.
-/

namespace ClusterRouter

open Program (Exchange Outcome)

namespace Router

open Reconcile

variable {σ : Type} {respond : σ → Request → Reply × σ} {router : Router} {s : σ}
  {exchanges : List Exchange} {result : Except ReconcileError Status}

/-- A pass fails before it has found out what to do: in observing, in preparing, or in comparing. -/
inductive FailsEarly (respond : σ → Request → Reply × σ) (router : Router) (s : σ) :
    ReconcileError → Prop where
  | observing {seen : List Exchange} {after : σ} {e : ReconcileError} :
    Runs respond router.observe s seen after (.error e) → FailsEarly respond router s e
  | preparing {first second : List Exchange} {middle after : σ} {observed : Bundle}
      {e : ReconcileError} :
    router.settings.state = .present → (observed.isDeployed = true ∨ router.checkOnly = false) →
      Runs respond router.observe s first middle (.ok observed) →
      Runs respond router.prepare middle second after (.error e) → FailsEarly respond router s e
  | comparing {seen : List Exchange} {observed rendered : Bundle} {e : ReconcileError} :
    router.settings.state = .present → observed.isDeployed = true →
      Prepared respond router s seen observed rendered →
      needsUpdate router.settings observed rendered = .error e → FailsEarly respond router s e

/-- A pass that is to act decides to delete the parts: some are there and not wanted, or what is
deployed has drifted from what is prepared. -/
inductive DecidesDeletion (respond : σ → Request → Reply × σ) (router : Router) (s : σ) : Prop where
  | unwanted {seen : List Exchange} {after : σ} {observed : Bundle} :
    router.checkOnly = false → router.settings.state = .absent →
      Runs respond router.observe s seen after (.ok observed) → observed.manifests ≠ [] →
      DecidesDeletion respond router s
  | drifted {seen : List Exchange} {observed rendered : Bundle} :
    router.checkOnly = false → router.settings.state = .present →
      Prepared respond router s seen observed rendered → observed.isDeployed = true →
      needsUpdate router.settings observed rendered = .ok true → DecidesDeletion respond router s

/-- How the mutating requests of a pass are gated and ordered. -/
structure Gated (respond : σ → Request → Reply × σ) (router : Router) (s : σ)
    (exchanges : List Exchange) (result : Except ReconcileError Status) : Prop where
  checkOnly : router.checkOnly = true → Quiet exchanges
  unchanged : ∀ status, result = .ok status → status.changed = false → Quiet exchanges
  failsEarly : ∀ e, FailsEarly respond router s e → result = .error e ∧ Quiet exchanges
  deletesInOrder :
    (deletions exchanges).map Exchange.request <+: router.settings.parts.map deletion
  deletesDecided : DecidesDeletion respond router s → deletions exchanges ≠ []
  /-- All parts are tried, unless a request that cannot be run ends the pass. -/
  deletesAll : deletions exchanges ≠ [] →
    (deletions exchanges).map Exchange.request = router.settings.parts.map deletion ∨
      ∃ cause earlier part, result = .error (.request cause) ∧
        exchanges = earlier ++ [⟨deletion part, .error cause⟩]
  createsInOrder : creations exchanges ≠ [] →
    ∃ seen observed rendered, Prepared respond router s seen observed rendered ∧
      rendered.Ordered ∧
      (creations exchanges).map Exchange.request <+: rendered.manifests.map router.creation
  createsAfterDeletes : deletions exchanges ≠ [] →
    ∀ earlier exchange later, exchanges = earlier ++ exchange :: later →
      exchange.request.isCreate = true →
      (deletions earlier).map Exchange.request = router.settings.parts.map deletion ∧
        (∀ deleted ∈ deletions earlier, ∃ reply, deleted.reply = .ok reply ∧
          (reply.succeeded = true ∨ reply.failedWith "not found" = true)) ∧
        deletions later = []
  deletesWarranted : router.settings.state = .present →
    ∀ earlier exchange later, exchanges = earlier ++ exchange :: later →
      exchange.request.isDelete = true →
      ∃ seen observed rendered, seen <+: earlier ∧
        Prepared respond router s seen observed rendered ∧ router.RenderedBy seen rendered ∧
        needsUpdate router.settings observed rendered = .ok true
  results : ∀ status, result = .ok status → status.changed = true → router.checkOnly = false →
    (mutations exchanges).map Exchange.reply = status.results.map .ok

theorem FailsEarly.runs {e : ReconcileError} (h : FailsEarly respond router s e) :
    ∃ seen after, Runs respond router.run s seen after (.error e) ∧ Quiet seen := by
  rw [run_eq]
  cases h with
  | observing hobserve => exact ⟨_, _, hobserve.bind_error, quiet_of_observe hobserve⟩
  | @preparing first second _ after observed _ hstate hgoes hobserve hprepare =>
    refine ⟨first ++ second, after, hobserve.bind ?_,
      (quiet_of_observe hobserve).append (quiet_of_prepare hprepare)⟩
    simp only [proceed, hstate]
    split
    · exact hprepare.bind_error
    next hnot =>
      have hcheck : router.checkOnly = false := hgoes.resolve_left hnot
      rw [hcheck, if_neg Bool.false_ne_true]
      exact hprepare.bind_error
  | comparing hstate hdeployed hprepared hneeds =>
    have hquiet := hprepared.quiet
    cases hprepared with
    | @mk first second middle after _ _ hobserve hprepare =>
      refine ⟨first ++ second, after, hobserve.bind ?_, hquiet⟩
      simp only [proceed, hstate, if_pos hdeployed]
      rw [← List.append_nil second]
      exact hprepare.bind (runs_decided_iff.mpr ⟨rfl, rfl, hneeds.symm⟩).bind_error

theorem deletions_ne_nil_of_update {start after : σ} {rendered : Bundle}
    {found : Except ReconcileError (List CommandResult)}
    (h : Runs respond (router.update rendered) start exchanges after found) :
    deletions exchanges ≠ [] := by
  rcases runs_update_iff.mp h with
    ⟨e, hdelete, -⟩ | ⟨results, deleted, middle, created, more, hdelete, -, rfl, -⟩
  · exact deletions_ne_nil_of_delete hdelete
  · rw [deletions_append]
    exact List.append_ne_nil_of_left_ne_nil (deletions_ne_nil_of_delete hdelete) _

theorem DecidesDeletion.runs (h : DecidesDeletion respond router s) :
    ∃ seen acted after result, Runs respond router.run s (seen ++ acted) after result ∧
      deletions acted ≠ [] := by
  rw [run_eq]
  cases h with
  | @unwanted seen middle observed hperforms hstate hobserve hsome =>
    have hproceed : router.proceed observed = .done .absent <$> router.delete := by
      simp only [proceed, hstate, List.isEmpty_iff, if_neg hsome, perform_delete hperforms]
    have hdelete : Runs respond router.delete middle _ _ _ := runs_of_run router.delete middle
    have hdone : Runs respond (Status.done .absent <$> router.delete) middle _ _ _ :=
      runs_map_iff.mpr ⟨_, hdelete, rfl⟩
    rw [← hproceed] at hdone
    exact ⟨seen, _, _, _, hobserve.bind hdone, deletions_ne_nil_of_delete hdelete⟩
  | @drifted _ _ rendered hperforms hstate hprepared hdeployed hneeds =>
    obtain @⟨first, second, middle, start, _, _, hobserve, hprepare⟩ := hprepared
    have hupdate : Runs respond (router.update rendered) start _ _ _ := runs_of_run _ start
    have hdone : Runs respond (Status.done .present <$> router.update rendered) start _ _ _ :=
      runs_map_iff.mpr ⟨_, hupdate, rfl⟩
    rw [← hstate, ← perform_update hperforms] at hdone
    have hruns := runs_run_of_needs hstate hdeployed hobserve hprepare hneeds hdone
    rw [← List.append_assoc, run_eq] at hruns
    exact ⟨first ++ second, _, _, _, hruns, deletions_ne_nil_of_update hupdate⟩

/-- What comes first and has no such request lies before the first one. -/
theorem prefix_of_not {p : Request → Bool} {first second earlier later : List Exchange}
    {exchange : Exchange} (hfirst : first.filter (fun exchange ↦ p exchange.request) = [])
    (hexchange : p exchange.request = true) (h : first ++ second = earlier ++ exchange :: later) :
    ∃ rest, earlier = first ++ rest ∧ second = rest ++ exchange :: later := by
  rcases List.append_eq_append_iff.mp h with ⟨rest, hearlier, hsecond⟩ | ⟨rest, hrest, hlater⟩
  · exact ⟨rest, hearlier, hsecond⟩
  · cases rest with
    | nil => exact ⟨[], by simpa using hrest.symm, by simpa using hlater.symm⟩
    | cons other rest =>
      obtain ⟨rfl, -⟩ := List.cons.inj hlater
      have hmem : exchange ∈ first := by simp [hrest]
      exact absurd hexchange (List.filter_eq_nil_iff.mp hfirst exchange hmem)

theorem deletions_ne_nil {earlier later : List Exchange} {exchange : Exchange}
    (hexchanges : exchanges = earlier ++ exchange :: later)
    (hdelete : exchange.request.isDelete = true) : deletions exchanges ≠ [] := by
  subst hexchanges
  simp [deletions, hdelete]

theorem creations_ne_nil {earlier later : List Exchange} {exchange : Exchange}
    (hexchanges : exchanges = earlier ++ exchange :: later)
    (hcreate : exchange.request.isCreate = true) : creations exchanges ≠ [] := by
  subst hexchanges
  simp [creations, hcreate]

namespace Course

theorem quiet_of_checkOnly (h : Course respond router s exchanges result)
    (hcheck : router.checkOnly = true) : Quiet exchanges := by
  cases h with
  | quiet hquiet => exact hquiet
  | _ hnot => simp [hcheck] at hnot

theorem quiet_of_unchanged (h : Course respond router s exchanges result) {status : Status}
    (hresult : result = .ok status) (hunchanged : status.changed = false) : Quiet exchanges := by
  cases h with
  | quiet hquiet => exact hquiet
  | deleting | creating | replacing =>
    obtain ⟨results, -, rfl⟩ := exists_of_map_done hresult
    contradiction
  | notReplacing => contradiction

/-- What is deleted is an attempt on all parts; where it fails, the pass ends. -/
theorem deletes (h : Course respond router s exchanges result) :
    deletions exchanges = [] ∨ ∃ earlier deleted later found,
      exchanges = earlier ++ (deleted ++ later) ∧ deletions exchanges = deleted ∧
        Attempted .delete "not found" deletionOf router.settings.parts deleted found ∧
        ∀ e, found = .error e → later = [] ∧ result = .error e := by
  cases h with
  | quiet hquiet => exact .inl hquiet.deletions
  | deleting _ _ hquiet hdeleted =>
    refine .inr ⟨_, _, [], _, by rw [List.append_nil], ?_, hdeleted, ?_⟩
    · rw [deletions_append, hquiet.deletions, (deletions_of_attempted hdeleted).1, List.nil_append]
    · rintro e rfl
      exact ⟨rfl, rfl⟩
  | creating _ _ hprepared hcreated =>
    left
    rw [deletions_append, hprepared.quiet.deletions, (creations_of_attempted hcreated).2.1]
    rfl
  | notReplacing _ _ hprepared _ hdeleted =>
    refine .inr ⟨_, _, [], _, by rw [List.append_nil], ?_, hdeleted, ?_⟩
    · rw [deletions_append, hprepared.quiet.deletions, (deletions_of_attempted hdeleted).1,
        List.nil_append]
    · rintro e ⟨⟩
      exact ⟨rfl, rfl⟩
  | replacing _ _ hprepared _ hdeleted hcreated =>
    refine .inr ⟨_, _, _, _, rfl, ?_, hdeleted, by simp⟩
    rw [deletions_append, deletions_append, hprepared.quiet.deletions,
      (deletions_of_attempted hdeleted).1, (creations_of_attempted hcreated).2.1, List.nil_append,
      List.append_nil]

/-- What is created is an attempt on the parts that were prepared. -/
theorem creates (h : Course respond router s exchanges result) :
    creations exchanges = [] ∨ ∃ seen observed rendered found,
      Prepared respond router s seen observed rendered ∧
        Attempted .create "already exist" router.creationOf rendered.manifests
          (creations exchanges) found := by
  cases h with
  | quiet hquiet => exact .inl hquiet.creations
  | deleting _ _ hquiet hdeleted =>
    left
    rw [creations_append, hquiet.creations, (deletions_of_attempted hdeleted).2.1]
    rfl
  | creating _ _ hprepared hcreated =>
    rw [creations_append, hprepared.quiet.creations, (creations_of_attempted hcreated).1]
    exact .inr ⟨_, _, _, _, hprepared, hcreated⟩
  | notReplacing _ _ hprepared _ hdeleted =>
    left
    rw [creations_append, hprepared.quiet.creations, (deletions_of_attempted hdeleted).2.1]
    rfl
  | replacing _ _ hprepared _ hdeleted hcreated =>
    rw [creations_append, creations_append, hprepared.quiet.creations,
      (deletions_of_attempted hdeleted).2.1, (creations_of_attempted hcreated).1]
    exact .inr ⟨_, _, _, _, hprepared, hcreated⟩

/-- A status that tells of a change carries what the mutating requests came to. -/
theorem results (h : Course respond router s exchanges result) {status : Status}
    (hresult : result = .ok status) (hchanged : status.changed = true)
    (hcheck : router.checkOnly = false) :
    (mutations exchanges).map Exchange.reply = status.results.map .ok := by
  cases h with
  | quiet _ honly =>
    rw [honly status hresult hchanged] at hcheck
    contradiction
  | deleting _ _ hquiet hdeleted =>
    obtain ⟨results, rfl, rfl⟩ := exists_of_map_done hresult
    rw [mutations_append, hquiet.mutations, (deletions_of_attempted hdeleted).2.2, List.nil_append,
      (hdeleted.of_ok makes_deletion).2.1]
    rfl
  | creating _ _ hprepared hcreated =>
    obtain ⟨results, rfl, rfl⟩ := exists_of_map_done hresult
    rw [mutations_append, hprepared.quiet.mutations, (creations_of_attempted hcreated).2.2,
      List.nil_append, (hcreated.of_ok router.makes_creation).2.1]
    rfl
  | notReplacing => contradiction
  | replacing _ _ hprepared _ hdeleted hcreated =>
    obtain ⟨results, rfl, rfl⟩ := exists_of_map_done hresult
    rw [mutations_append, mutations_append, hprepared.quiet.mutations,
      (deletions_of_attempted hdeleted).2.2, (creations_of_attempted hcreated).2.2,
      List.nil_append, List.map_append, (hdeleted.of_ok makes_deletion).2.1,
      (hcreated.of_ok router.makes_creation).2.1, ← List.map_append]
    rfl

theorem deletesInOrder (h : Course respond router s exchanges result) :
    (deletions exchanges).map Exchange.request <+: router.settings.parts.map deletion := by
  rcases h.deletes with hnone | ⟨earlier, deleted, later, found, -, hdeleted, hattempt, -⟩
  · rw [hnone]
    exact List.nil_prefix
  · rw [hdeleted]
    exact hattempt.isPrefix_requests makes_deletion

theorem deletesAll (h : Course respond router s exchanges result)
    (hdeletes : deletions exchanges ≠ []) :
    (deletions exchanges).map Exchange.request = router.settings.parts.map deletion ∨
      ∃ cause earlier part, result = .error (.request cause) ∧
        exchanges = earlier ++ [⟨deletion part, .error cause⟩] := by
  rcases h.deletes with hnone | ⟨before, deleted, later, found, hall, hdeleted, hattempt, hfail⟩
  · exact absurd hnone hdeletes
  rcases hattempt.requests_or_refused fun _ ↦ rfl with hrequests | ⟨cause, earlier, part, rfl, hlast⟩
  · rw [hdeleted]
    exact .inl hrequests
  · obtain ⟨rfl, hresult⟩ := hfail _ rfl
    rw [List.append_nil, hlast, ← List.append_assoc] at hall
    exact .inr ⟨cause, before ++ earlier, part, hresult, hall⟩

theorem createsInOrder (h : Course respond router s exchanges result)
    (hcreates : creations exchanges ≠ []) :
    ∃ seen observed rendered, Prepared respond router s seen observed rendered ∧
      rendered.Ordered ∧
      (creations exchanges).map Exchange.request <+: rendered.manifests.map router.creation := by
  rcases h.creates with hnone | ⟨seen, observed, rendered, found, hprepared, hattempt⟩
  · exact absurd hnone hcreates
  · exact ⟨seen, observed, rendered, hprepared, hprepared.renderedBy.ordered,
      hattempt.isPrefix_requests router.makes_creation⟩

/-- Where deletions and creations occur, the deletions come first and none of them has failed for
another reason than that there was nothing to delete. -/
theorem createsAfterDeletes (h : Course respond router s exchanges result)
    (hdeletes : deletions exchanges ≠ []) {earlier later : List Exchange} {exchange : Exchange}
    (hexchanges : exchanges = earlier ++ exchange :: later)
    (hcreate : exchange.request.isCreate = true) :
    (deletions earlier).map Exchange.request = router.settings.parts.map deletion ∧
      (∀ deleted ∈ deletions earlier, ∃ reply, deleted.reply = .ok reply ∧
        (reply.succeeded = true ∨ reply.failedWith "not found" = true)) ∧
      deletions later = [] := by
  cases h with
  | quiet hquiet => exact absurd hquiet.deletions hdeletes
  | deleting _ _ hquiet hdeleted =>
    refine absurd ?_ (creations_ne_nil hexchanges hcreate)
    rw [creations_append, hquiet.creations, (deletions_of_attempted hdeleted).2.1]
    rfl
  | creating _ _ hprepared hcreated =>
    refine absurd ?_ hdeletes
    rw [deletions_append, hprepared.quiet.deletions, (creations_of_attempted hcreated).2.1]
    rfl
  | notReplacing _ _ hprepared _ hdeleted =>
    refine absurd ?_ (creations_ne_nil hexchanges hcreate)
    rw [creations_append, hprepared.quiet.creations, (deletions_of_attempted hdeleted).2.1]
    rfl
  | @replacing seen deleted _ _ _ replies _ _ _ hprepared _ hdeleted hcreated =>
    obtain ⟨hrequests, hreplies, htolerated⟩ := hdeleted.of_ok makes_deletion
    obtain ⟨hdeletions, hnone, -⟩ := deletions_of_attempted hdeleted
    obtain ⟨middle, rfl, hlater⟩ := prefix_of_not hprepared.quiet.creations hcreate hexchanges
    obtain ⟨rest, rfl, hrest⟩ := prefix_of_not hnone hcreate hlater
    have hcreations := (creations_of_attempted hcreated).2.1
    rw [hrest, deletions_append, List.append_eq_nil_iff] at hcreations
    have hearlier : deletions (seen ++ (deleted ++ rest)) = deleted := by
      rw [deletions_append, deletions_append, hprepared.quiet.deletions, hdeletions, hcreations.1,
        List.nil_append, List.append_nil]
    rw [hearlier]
    refine ⟨hrequests, fun exchange hexchange ↦ ?_, ?_⟩
    · have hreply : exchange.reply ∈ replies.map Except.ok :=
        hreplies ▸ List.mem_map_of_mem hexchange
      obtain ⟨reply, hmem, hreply⟩ := List.mem_map.mp hreply
      exact ⟨reply, hreply.symm, htolerated reply hmem⟩
    · apply List.filter_eq_nil_iff.mpr
      intro other hother
      exact List.filter_eq_nil_iff.mp hcreations.2 other (List.mem_cons_of_mem _ hother)

theorem deletesWarranted (h : Course respond router s exchanges result)
    (hstate : router.settings.state = .present) {earlier later : List Exchange}
    {exchange : Exchange} (hexchanges : exchanges = earlier ++ exchange :: later)
    (hdelete : exchange.request.isDelete = true) :
    ∃ seen observed rendered, seen <+: earlier ∧
      Prepared respond router s seen observed rendered ∧ router.RenderedBy seen rendered ∧
      needsUpdate router.settings observed rendered = .ok true := by
  cases h with
  | quiet hquiet => exact absurd hquiet.deletions (deletions_ne_nil hexchanges hdelete)
  | deleting _ hnot => simp [hstate] at hnot
  | creating _ _ hprepared hcreated =>
    refine absurd ?_ (deletions_ne_nil hexchanges hdelete)
    rw [deletions_append, hprepared.quiet.deletions, (creations_of_attempted hcreated).2.1]
    rfl
  | notReplacing _ _ hprepared hneeds _ =>
    obtain ⟨rest, rfl, -⟩ := prefix_of_not hprepared.quiet.deletions hdelete hexchanges
    exact ⟨_, _, _, List.prefix_append _ _, hprepared, hprepared.renderedBy, hneeds⟩
  | replacing _ _ hprepared hneeds _ _ =>
    obtain ⟨rest, rfl, -⟩ := prefix_of_not hprepared.quiet.deletions hdelete hexchanges
    exact ⟨_, _, _, List.prefix_append _ _, hprepared, hprepared.renderedBy, hneeds⟩

end Course

/-- The mutating requests of every pass are gated and ordered, whatever is answered to it. -/
theorem run_gated (respond : σ → Request → Reply × σ) (router : Router) (s : σ) :
    Gated respond router s (Program.run respond router.run.run s).exchanges
      (Program.run respond router.run.run s).result := by
  have hrun : Runs respond router.run s _ _ _ := runs_of_run router.run s
  have hcourse := course_of_run hrun
  have hearly (e : ReconcileError) (h : FailsEarly respond router s e) :
      (Program.run respond router.run.run s).result = .error e ∧
        Quiet (Program.run respond router.run.run s).exchanges := by
    obtain ⟨seen, after, hseen, hquiet⟩ := h.runs
    obtain ⟨hexchanges, -, hresult⟩ := hrun.unique hseen
    rw [hexchanges]
    exact ⟨hresult, hquiet⟩
  have hdecided (h : DecidesDeletion respond router s) :
      deletions (Program.run respond router.run.run s).exchanges ≠ [] := by
    obtain ⟨seen, acted, after, result, hacts, hdeletes⟩ := h.runs
    obtain ⟨hexchanges, -, -⟩ := hrun.unique hacts
    rw [hexchanges, deletions_append]
    exact List.append_ne_nil_of_right_ne_nil _ hdeletes
  exact {
    checkOnly := hcourse.quiet_of_checkOnly
    unchanged := fun _ ↦ hcourse.quiet_of_unchanged
    failsEarly := hearly
    deletesInOrder := hcourse.deletesInOrder
    deletesDecided := hdecided
    deletesAll := hcourse.deletesAll
    createsInOrder := hcourse.createsInOrder
    createsAfterDeletes := fun hdeletes _ _ _ ↦ hcourse.createsAfterDeletes hdeletes
    deletesWarranted := fun hstate _ _ _ ↦ hcourse.deletesWarranted hstate
    results := fun _ ↦ hcourse.results }

end Router

end ClusterRouter
