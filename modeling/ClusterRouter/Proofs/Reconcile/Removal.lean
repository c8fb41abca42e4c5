import ClusterRouter.Proofs.Reconcile.Replacement

/-!
# Removal converges

A router that is not wanted is gone after one pass: where any of its parts can be observed, the
role binding counts as one, all parts are deleted whatever their names, and those that are gone
already do not stop the pass. Where nothing can be observed, a pass only looks. Either way nothing
can be observed afterwards, so no later pass deletes anything.

Objects that do not carry the names of their parts are not observed. They go with the others, or
stay where there are no others.
-/

namespace ClusterRouter

open Program (Exchange)
open Reconcile

namespace Cluster

/-- A part can be observed: an object of its kind is live under its name and shows a document. -/
def Exhibits (cluster : Cluster) (part : Part) : Prop :=
  ((cluster.live part.kind).bind part.document?).isSome = true

/-- Of parts of different kinds, nothing is shown exactly if nothing of these kinds is live. -/
theorem manifests_shown_eq_nil_iff (cluster : Cluster) {parts : List Part}
    (hkinds : (parts.map Part.kind).Nodup) :
    (cluster.shown parts).manifests = [] ↔ ∀ part ∈ parts, cluster.live part.kind = none := by
  constructor
  · intro hnone part hpart
    have hget : (cluster.shown parts).get? part.kind = none := by
      rw [Bundle.get?, hnone]
      rfl
    rwa [cluster.get?_shown hkinds hpart, Option.map_eq_none_iff] at hget
  · intro hlive
    suffices h : ∀ bundle, parts.foldl cluster.showPart bundle = bundle from
      congrArg Bundle.manifests (h {})
    intro bundle
    clear hkinds
    induction parts with
    | nil => rfl
    | cons part parts ih =>
      obtain ⟨hpart, hrest⟩ := List.forall_mem_cons.mp hlive
      rw [List.foldl_cons, showPart, hpart]
      exact ih hrest

end Cluster

namespace Router

variable {σ : Type} {respond : σ → Request → Reply × σ} {view : σ → Cluster} {router : Router}
  {s after : σ} {exchanges : List Exchange}

def observation (part : Part) : Request := .get part.kind part.name none

/-- One lookup for each part is all that observing them takes. -/
theorem requests_of_observeParts {parts : List Part} {bundle observed : Bundle}
    (h : Runs respond (observeParts parts bundle) s exchanges after (.ok observed)) :
    exchanges.map Exchange.request = parts.map observation := by
  induction parts generalizing s bundle exchanges with
  | nil =>
    obtain ⟨rfl, -, -⟩ := runs_pure_iff.mp h
    rfl
  | cons part parts ih =>
    rcases runs_bind_iff.mp h with ⟨e, -, hnot⟩ | ⟨seen, first, middle, second, hpart, hrest, rfl⟩
    · contradiction
    rcases runs_bind_iff.mp hpart with ⟨e, -, hnot⟩ | ⟨reply, asked, _, none, hask, hshow, rfl⟩
    · contradiction
    obtain ⟨rfl, -, -⟩ := runs_ask_iff.mp hask
    have hnone : none = [] := by
      split at hshow <;> exact (runs_pure_iff.mp hshow).1
    rw [hnone, List.append_nil, List.singleton_append, List.map_cons, ih hrest]
    rfl

theorem manifests_observable_eq_nil_iff {cluster : Cluster} :
    ((router.observable cluster).shown router.settings.parts).manifests = [] ↔
      ∀ part ∈ router.settings.parts, ¬cluster.Exhibits part := by
  rw [Cluster.manifests_shown_eq_nil_iff _ router.settings.nodup_parts]
  apply forall₂_congr
  intro part hpart
  rw [live_observable cluster hpart, Cluster.Exhibits, Option.not_isSome_iff_eq_none]

/-- The next pass looks for each part once and does nothing else: it succeeds, tells of no change,
and leaves the cluster as it is. -/
structure Idles (respond : σ → Request → Reply × σ) (view : σ → Cluster) (router : Router) (s : σ) :
    Prop where
  status : ∃ status, (router.pass respond s).result = .ok status ∧ status.changed = false
  looks : (router.pass respond s).exchanges.map Exchange.request =
    router.settings.parts.map observation
  kept : view (router.pass respond s).state = view s

/-- The next pass deletes each part once, in their order: it succeeds and tells of a change with
the five outputs, each of them a success or a part that was not there, and leaves nothing live. -/
structure Removes (respond : σ → Request → Reply × σ) (view : σ → Cluster) (router : Router) (s : σ) :
    Prop where
  status : ∃ status, (router.pass respond s).result = .ok status ∧ status.changed = true ∧
    status.results.length = 5 ∧
    (mutations (router.pass respond s).exchanges).map Exchange.reply = status.results.map .ok ∧
    ∀ result ∈ status.results, result.succeeded = true ∨ result.failedWith "not found" = true
  deletes : (mutations (router.pass respond s).exchanges).map Exchange.request =
    router.settings.parts.map deletion
  gone : ∀ kind, (view (router.pass respond s).state).live kind = none

/-- Observing shows what is observable, and takes one lookup for each part. -/
theorem runs_observe_of_removing (hremoving : Removing respond view) (router : Router) (s : σ) :
    ∃ seen middle, Runs respond router.observe s seen middle
        (.ok ((router.observable (view s)).shown router.settings.parts)) ∧
      seen.map Exchange.request = router.settings.parts.map observation ∧
      view middle = view s := by
  obtain ⟨seen, middle, hobserve, hmiddle⟩ := runs_observeParts hremoving
    (fun part (hpart : part ∈ router.settings.parts) ↦ live_observable (view s) hpart) {}
  exact ⟨seen, middle, hobserve, requests_of_observeParts hobserve, hmiddle⟩

/-- Where no part can be observed, the next pass does nothing. -/
theorem idles_of_unobservable (hremoving : Removing respond view)
    (hstate : router.settings.state = .absent)
    (hnone : ∀ part ∈ router.settings.parts, ¬(view s).Exhibits part) :
    router.Idles respond view s := by
  obtain ⟨seen, middle, hobserve, hlooks, hmiddle⟩ := runs_observe_of_removing hremoving router s
  have hproceed : Runs respond
      (router.proceed ((router.observable (view s)).shown router.settings.parts)) middle [] middle
      (.ok (.unchanged .absent)) := by
    simp only [proceed, hstate, manifests_observable_eq_nil_iff.mpr hnone]
    exact runs_pure_iff.mpr ⟨rfl, rfl, rfl⟩
  have hrun : Runs respond router.run s (seen ++ []) middle (.ok (.unchanged .absent)) := by
    rw [run_eq]
    exact hobserve.bind hproceed
  have hpass : router.pass respond s = ⟨seen ++ [], middle, .ok (.unchanged .absent)⟩ := hrun
  rw [List.append_nil] at hpass
  exact ⟨⟨_, by rw [hpass], rfl⟩, by rw [hpass, hlooks], by rw [hpass, hmiddle]⟩

/-- Where a part can be observed, the next pass deletes all of them. -/
theorem removes_of_observable (hremoving : Removing respond view)
    (hstate : router.settings.state = .absent) (hperforms : router.checkOnly = false)
    {part : Part} (hpart : part ∈ router.settings.parts) (hsome : (view s).Exhibits part) :
    router.Removes respond view s := by
  obtain ⟨seen, middle, hobserve, -, -⟩ := runs_observe_of_removing hremoving router s
  obtain ⟨deleted, after, results, hdelete, hafter⟩ :
      ∃ deleted after results, Runs respond router.delete middle deleted after (.ok results) ∧
        view after = router.settings.parts.foldl Cluster.deleted (view middle) :=
    runs_attempt (fun _ _ ↦ rfl) fun part _ s ↦ answers_deletion_of_removing hremoving part s
  have hproceed : Runs respond
      (router.proceed ((router.observable (view s)).shown router.settings.parts)) middle deleted
      after (.ok (.done .absent results)) := by
    have hshown : ((router.observable (view s)).shown router.settings.parts).manifests ≠ [] :=
      fun hnone ↦ manifests_observable_eq_nil_iff.mp hnone part hpart hsome
    have hempty := List.isEmpty_eq_false_iff.mpr hshown
    simp only [proceed, hstate, hempty, perform_delete hperforms, if_neg Bool.false_ne_true]
    exact runs_map_iff.mpr ⟨.ok results, hdelete, rfl⟩
  have hrun : Runs respond router.run s (seen ++ deleted) after (.ok (.done .absent results)) := by
    rw [run_eq]
    exact hobserve.bind hproceed
  have hpass : router.pass respond s = ⟨seen ++ deleted, after, .ok (.done .absent results)⟩ := hrun
  have hattempted : Attempted .delete "not found" deletionOf router.settings.parts deleted
      (.ok results) := attempted_of_runs hdelete
  obtain ⟨hrequests, hreplies, htolerated⟩ := hattempted.of_ok makes_deletion
  have hmutations : mutations (seen ++ deleted) = deleted := by
    rw [mutations_append, (quiet_of_observe hobserve).mutations,
      (deletions_of_attempted hattempted).2.2, List.nil_append]
  have hlength : results.length = 5 := calc
    results.length = (deleted.map Exchange.reply).length := by rw [hreplies, List.length_map]
    _ = (deleted.map Exchange.request).length := by rw [List.length_map, List.length_map]
    _ = 5 := by rw [hrequests]; rfl
  rw [← hmutations] at hrequests hreplies
  refine ⟨⟨.done .absent results, by rw [hpass], rfl, hlength, by rw [hpass]; exact hreplies,
    htolerated⟩, by rw [hpass]; exact hrequests, fun kind ↦ ?_⟩
  rw [hpass, hafter]
  exact live_deleted router _ kind

/-- Where nothing can be observed it stays so: no later pass does anything. -/
theorem idles_afterPasses (hremoving : Removing respond view)
    (hstate : router.settings.state = .absent)
    (hnone : ∀ part ∈ router.settings.parts, ¬(view s).Exhibits part) (n : Nat) :
    router.Idles respond view (router.afterPasses respond n s) := by
  induction n generalizing s with
  | zero => exact idles_of_unobservable hremoving hstate hnone
  | succ n ih =>
    rw [afterPasses_succ]
    apply ih
    rw [(idles_of_unobservable hremoving hstate hnone).kept]
    exact hnone

/-- What an unwanted router comes to in passes from `s` on: if a part was observed it is removed in
the first pass, else that pass does nothing, and all later ones do nothing. -/
structure Vanishes (respond : σ → Request → Reply × σ) (view : σ → Cluster) (router : Router)
    (s : σ) (observed : Bundle) : Prop where
  observes : (Program.run respond router.observe.run s).result = .ok observed
  observed_iff : observed.manifests ≠ [] ↔
    ∃ part ∈ router.settings.parts, (view s).Exhibits part
  removes : observed.manifests ≠ [] → router.Removes respond view s
  idles : observed.manifests = [] → router.Idles respond view s
  restsLater : ∀ n, router.Idles respond view (router.afterPasses respond (n + 1) s)

/-- Removal converges: whatever is live, an unwanted router is gone after one pass, and later
passes delete nothing. -/
theorem run_vanishes (hremoving : Removing respond view) (hstate : router.settings.state = .absent)
    (hperforms : router.checkOnly = false) (s : σ) :
    ∃ observed, Vanishes respond view router s observed := by
  obtain ⟨seen, middle, hobserve, -, -⟩ := runs_observe_of_removing hremoving router s
  have hobserved : ((router.observable (view s)).shown router.settings.parts).manifests ≠ [] ↔
      ∃ part ∈ router.settings.parts, (view s).Exhibits part := by
    simp only [ne_eq, manifests_observable_eq_nil_iff, not_forall, not_not, exists_prop]
  have hremoves (h : ∃ part ∈ router.settings.parts, (view s).Exhibits part) :
      router.Removes respond view s := by
    obtain ⟨part, hpart, hsome⟩ := h
    exact removes_of_observable hremoving hstate hperforms hpart hsome
  refine ⟨_, by rw [hobserve], hobserved, fun h ↦ hremoves (hobserved.mp h), fun h ↦ ?_,
    fun n ↦ ?_⟩
  · exact idles_of_unobservable hremoving hstate (manifests_observable_eq_nil_iff.mp h)
  · rw [afterPasses_succ]
    apply idles_afterPasses hremoving hstate
    intro part hpart hsome
    by_cases h : ∃ part ∈ router.settings.parts, (view s).Exhibits part
    · rw [Cluster.Exhibits, (hremoves h).gone] at hsome
      contradiction
    · have hnone : ∀ part ∈ router.settings.parts, ¬(view s).Exhibits part :=
        fun part hpart hsome ↦ h ⟨part, hpart, hsome⟩
      rw [(idles_of_unobservable hremoving hstate hnone).kept] at hsome
      exact hnone part hpart hsome

def unwantedRouter : Router := { smallRouter with settings := { state := .absent } }

/-- A cluster with the role binding of a router and a service of another one. -/
def orphanedCluster : Cluster :=
  .ofObjects [smallObject .clusterRoleBinding "router-router-role" [],
    smallObject .service "other" []] []

/-- The role binding alone has all parts deleted, the service of the other name among them. -/
theorem run_vanishes_of_role_binding :
    Removing Cluster.respond id ∧ orphanedCluster.kinds = [.service, .clusterRoleBinding] ∧
      unwantedRouter.Removes Cluster.respond id orphanedCluster ∧
      ∀ n, unwantedRouter.Idles Cluster.respond id
        (unwantedRouter.afterPasses Cluster.respond (n + 1) orphanedCluster) := by
  obtain ⟨observed, h⟩ : ∃ observed,
      Vanishes Cluster.respond id unwantedRouter orphanedCluster observed :=
    run_vanishes Cluster.faithful_respond.removing rfl rfl orphanedCluster
  have hobserved : observed.manifests ≠ [] :=
    h.observed_iff.mpr ⟨⟨.clusterRoleBinding, "router-router-role"⟩, by decide, rfl⟩
  exact ⟨Cluster.faithful_respond.removing, by decide, h.removes hobserved, h.restsLater⟩

end Router

end ClusterRouter
