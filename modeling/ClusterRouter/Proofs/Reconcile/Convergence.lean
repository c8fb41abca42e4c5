import Mathlib.Logic.Function.Iterate
import ClusterRouter.Proofs.Reconcile.Alignment
import ClusterRouter.Proofs.Reconcile.Effects
import ClusterRouter.Proofs.Yaml.Decoder

/-!
# Reconciliation converges

On a faithful cluster a wanted router settles within two passes, as long as temporary files can be
made of its parts. A pass that finds a part missing creates what is not there and leaves the rest,
so it may leave parts that have drifted; the next one replaces all parts by the rendered ones. What
was just created has not drifted from the rendering it was created from, and from then on nothing
changes.
-/

namespace ClusterRouter

open Program (Exchange Outcome)
open Reconcile

/-! ### What is rendered can be kept -/

theorem Manifest.kindOf?_congr {a b : Value} (h : (a == b) = true) :
    Manifest.kindOf? a = Manifest.kindOf? b := by
  rw [Manifest.kindOf?, Manifest.kindOf?, Value.asString_field?_congr h]

theorem Named.congr {name : String} {a b : Value} (h : (a == b) = true) (hb : Named name b) :
    Named name a := by
  obtain ⟨metadata, hmetadata, hname⟩ := Option.bind_eq_some_iff.mp hb.stated
  have hfield := Value.field?_beq h "metadata"
  have hitems := Value.field?_beq h "items"
  rw [hmetadata] at hfield
  rw [hb.single] at hitems
  obtain ⟨hnone, -⟩ | ⟨other, _, hother, -, -⟩ := Value.cases_of_option_beq hitems
  · refine ⟨?_, hnone⟩
    obtain ⟨-, hnot⟩ | ⟨found, _, hfound, ⟨⟩, hequal⟩ := Value.cases_of_option_beq hfield
    · contradiction
    have hstated := Value.field?_beq hequal "name"
    rw [hname] at hstated
    obtain ⟨-, hnot⟩ | ⟨stated, _, hstated, ⟨⟩, hstring⟩ := Value.cases_of_option_beq hstated
    · contradiction
    rw [hfound, Option.bind_some, hstated, Value.eq_string_of_beq hstring]
  · rw [hother] at hitems
    contradiction

/-- A cluster can keep what is rendered: the objects state their kinds and the names of the parts,
and are read back equal from their files, which rules out values that are not numbers. -/
structure Keepable (router : Router) (rendered : Bundle) : Prop where
  deployed : rendered.isDeployed = true
  kinds : ∀ manifest ∈ rendered.manifests,
    Manifest.kindOf? manifest.document.root = some manifest.kind
  named : ∀ manifest ∈ rendered.manifests, ∀ part ∈ router.settings.parts,
    part.kind = manifest.kind → Named part.name manifest.document.root
  stored : ∀ manifest ∈ rendered.manifests, ∃ object, manifest.stored? = some object ∧
    (object == manifest.document.root) = true
  ports : ∀ service, rendered.get? .service = some service → DefaultPorts service

/-- What is read back from a file is well formed, and what it equals is so too. -/
theorem Keepable.wellFormed {router : Router} {rendered : Bundle} (h : Keepable router rendered) :
    rendered.WellFormed := by
  intro kind manifest hmanifest
  obtain ⟨object, hstored, hequal⟩ := h.stored manifest (List.mem_of_find?_eq_some hmanifest)
  exact Value.wellFormed_of_equal _ _ hequal (Yaml.wellFormed_of_decode hstored)

namespace Router

variable {σ : Type}

/-- One pass towards the wanted state. -/
def pass (respond : σ → Request → Reply × σ) (router : Router) (s : σ) :
    Outcome σ (Except ReconcileError Status) :=
  Program.run respond router.run.run s

/-- The state of the answering party after some passes in a row. -/
def afterPasses (respond : σ → Request → Reply × σ) (router : Router) (n : Nat) (s : σ) : σ :=
  (fun s ↦ (router.pass respond s).state)^[n] s

/-- The next pass succeeds and tells of a change. -/
def Changes (respond : σ → Request → Reply × σ) (router : Router) (s : σ) : Prop :=
  ∃ status, (router.pass respond s).result = .ok status ∧ status.changed = true

/-- The next pass succeeds and tells of no change: it makes no mutating request, the cluster stays
as it is, and the router is deployed and has not drifted from what is rendered. -/
structure Rests (respond : σ → Request → Reply × σ) (view : σ → Cluster) (router : Router)
    (rendered : Bundle) (s : σ) : Prop where
  unchanged : ∃ status, (router.pass respond s).result = .ok status ∧ status.changed = false
  quiet : Quiet (router.pass respond s).exchanges
  kept : view (router.pass respond s).state = view s
  deployed : ∀ kind ∈ Bundle.requiredKinds, ((view s).live kind).isSome
  current : ∃ observed,
    Prepared respond router s (router.pass respond s).exchanges observed rendered ∧
      needsUpdate router.settings observed rendered = .ok false

/-- The first `k` passes change something, and all that follow change nothing. -/
def SettlesAfter (respond : σ → Request → Reply × σ) (view : σ → Cluster) (router : Router)
    (rendered : Bundle) (k : Nat) (s : σ) : Prop :=
  ∀ n, (n < k → router.Changes respond (router.afterPasses respond n s)) ∧
    (k ≤ n → router.Rests respond view rendered (router.afterPasses respond n s))

variable {respond : σ → Request → Reply × σ} {view : σ → Cluster} {router : Router}
  {rendered : Bundle} {s : σ}

theorem afterPasses_zero (s : σ) : router.afterPasses respond 0 s = s := rfl

theorem afterPasses_succ (n : Nat) (s : σ) :
    router.afterPasses respond (n + 1) s =
      router.afterPasses respond n (router.pass respond s).state :=
  Function.iterate_succ_apply _ n s

/-- A pass that changes something comes before those of a party that settles. -/
theorem SettlesAfter.succ {k : Nat} (hchanges : router.Changes respond s)
    (h : router.SettlesAfter respond view rendered k (router.pass respond s).state) :
    router.SettlesAfter respond view rendered (k + 1) s := by
  intro n
  cases n with
  | zero => exact ⟨fun _ ↦ hchanges, fun hle ↦ absurd hle (Nat.not_succ_le_zero k)⟩
  | succ n =>
    rw [afterPasses_succ]
    exact ⟨fun hlt ↦ (h n).1 (Nat.lt_of_succ_lt_succ hlt),
      fun hle ↦ (h n).2 (Nat.le_of_succ_le_succ hle)⟩

/-- A party rests for ever where resting is kept. -/
theorem settlesAfter_zero (settled : σ → Prop) (hs : settled s)
    (hrests : ∀ s, settled s → router.Rests respond view rendered s)
    (hkept : ∀ s, settled s → settled (router.pass respond s).state) :
    router.SettlesAfter respond view rendered 0 s := by
  intro n
  suffices h : router.Rests respond view rendered (router.afterPasses respond n s) from
    ⟨fun hlt ↦ absurd hlt (Nat.not_lt_zero n), fun _ ↦ h⟩
  induction n generalizing s with
  | zero => exact hrests s hs
  | succ n ih =>
    rw [afterPasses_succ]
    exact ih (hkept s hs)

/-- A pass that changes something is one of those before a party rests. -/
theorem SettlesAfter.lt_of_changes {k n : Nat} (h : router.SettlesAfter respond view rendered k s)
    (hchanges : router.Changes respond (router.afterPasses respond n s)) : n < k := by
  by_contra hnot
  obtain ⟨rested, hrested, hunchanged⟩ := ((h n).2 (Nat.le_of_not_lt hnot)).unchanged
  obtain ⟨status, hstatus, hchanged⟩ := hchanges
  cases hstatus.symm.trans hrested
  rw [hunchanged] at hchanged
  contradiction

/-! ### The three situations before a pass -/

/-- What stays the same from pass to pass: the party is faithful, the router is wanted, and one
bundle is prepared that the cluster can keep and that files can be made of. -/
structure Reconciles (respond : σ → Request → Reply × σ) (view : σ → Cluster) (router : Router)
    (items : List Value) (rendered : Bundle) : Prop where
  faithful : Faithful respond view
  state : router.settings.state = .present
  performs : router.checkOnly = false
  prepares : router.Prepares respond view items rendered
  complete : Rendered rendered
  keepable : Keepable router rendered
  filed : router.CanFile rendered

/-- The cluster renders these items, and its live objects carry the names of the parts. -/
structure Orderly (router : Router) (items : List Value) (cluster : Cluster) : Prop where
  items : cluster.items = items
  sound : cluster.Sound router.settings.parts

variable {items : List Value}

theorem get?_shown_parts (router : Router) (cluster : Cluster) (kind : Kind) :
    ∃ part ∈ router.settings.parts, part.kind = kind ∧
      (cluster.shown router.settings.parts).get? kind = (cluster.live kind).map part.manifest := by
  obtain ⟨part, hpart, rfl⟩ := List.mem_map.mp (router.settings.kind_mem_parts kind)
  exact ⟨part, hpart, rfl, cluster.get?_shown router.settings.nodup_parts hpart⟩

/-- The cluster once all parts are deleted and the rendered ones are created. -/
def replaced (router : Router) (rendered : Bundle) (cluster : Cluster) : Cluster :=
  rendered.manifests.foldl Cluster.created (router.settings.parts.foldl Cluster.deleted cluster)

/-- The parts are of all kinds, so that nothing is live once they are deleted. -/
theorem live_deleted (router : Router) (cluster : Cluster) (kind : Kind) :
    (router.settings.parts.foldl Cluster.deleted cluster).live kind = none :=
  Cluster.live_foldl_deleted _ (.inl (router.settings.kind_mem_parts kind))

theorem isDeployed_shown_iff {cluster : Cluster} :
    (cluster.shown router.settings.parts).isDeployed = true ↔
      ∀ kind ∈ Bundle.requiredKinds, (cluster.live kind).isSome = true := by
  rw [Bundle.isDeployed, List.all_eq_true]
  apply forall₂_congr
  intro kind _
  obtain ⟨part, -, -, hget⟩ := get?_shown_parts router cluster kind
  rw [Bundle.contains, hget, Option.isSome_map]

namespace Reconciles

variable (h : Reconciles respond view router items rendered)

include h

/-- What a rendered part is read back as has its kind, carries its name and equals it. -/
theorem exists_stored {kind : Kind} {manifest : Manifest}
    (hmanifest : rendered.get? kind = some manifest) :
    ∃ object, manifest.stored? = some object ∧ (object == manifest.document.root) = true ∧
      ∀ part ∈ router.settings.parts, part.kind = kind → Named part.name object := by
  have hmem := List.mem_of_find?_eq_some hmanifest
  obtain ⟨object, hstored, hequal⟩ := h.keepable.stored manifest hmem
  refine ⟨object, hstored, hequal, fun part hpart hkind ↦ ?_⟩
  rw [← Bundle.kind_of_get? hmanifest] at hkind
  exact (h.keepable.named manifest hmem part hpart hkind).congr hequal

theorem live_created (cluster : Cluster) (kind : Kind) :
    (rendered.manifests.foldl Cluster.created cluster).live kind =
      (cluster.live kind).or ((rendered.get? kind).bind Manifest.stored?) := by
  refine Cluster.live_foldl_created (fun manifest hmanifest ↦ ?_) cluster kind
  obtain ⟨object, hstored, -⟩ := h.keepable.stored manifest hmanifest
  rw [hstored, Option.isSome_some]

/-- Creating what is rendered leaves the cluster orderly. -/
theorem orderly_created {cluster : Cluster} (hcluster : Orderly router items cluster) :
    Orderly router items (rendered.manifests.foldl Cluster.created cluster) := by
  refine ⟨(cluster.items_foldl_created _).trans hcluster.items, ?_⟩
  intro part hpart object hlive
  rw [h.live_created] at hlive
  rcases Option.or_eq_some_iff.mp hlive with hold | ⟨-, hnew⟩
  · exact hcluster.sound part hpart object hold
  · obtain ⟨manifest, hmanifest, hstored⟩ := Option.bind_eq_some_iff.mp hnew
    obtain ⟨other, hother, -, hnamed⟩ := h.exists_stored hmanifest
    cases hstored.symm.trans hother
    exact hnamed part hpart rfl

/-- Creating what is rendered leaves the router deployed. -/
theorem deployed_created (cluster : Cluster) :
    ((rendered.manifests.foldl Cluster.created cluster).shown
      router.settings.parts).isDeployed = true := by
  refine isDeployed_shown_iff.mpr fun kind hkind ↦ ?_
  obtain ⟨manifest, hmanifest⟩ := exists_of_isDeployed h.keepable.deployed kind hkind
  obtain ⟨object, hstored, -⟩ := h.exists_stored hmanifest
  rw [h.live_created, hmanifest, Option.bind_some, hstored]
  cases cluster.live kind <;> rfl

theorem runs_create (s : σ) :
    ∃ exchanges after results, Runs respond (router.create rendered) s exchanges after (.ok results) ∧
      view after = rendered.manifests.foldl Cluster.created (view s) := by
  have hcreation : ∀ manifest ∈ rendered.manifests, ∀ s,
      Answers respond view s (router.creation manifest) fun result after ↦
        after = (view s).created manifest ∧
          (result.succeeded || result.failedWith "already exist") = true := by
    intro manifest hmanifest s
    obtain ⟨object, hstored, hequal⟩ := h.keepable.stored manifest hmanifest
    refine answers_creation h.faithful hstored ?_ s
    rw [Manifest.kindOf?_congr hequal, h.keepable.kinds manifest hmanifest]
  refine runs_attempt (fun manifest hmanifest ↦ ?_) hcreation
  exact creationOf_eq_ok_iff.mpr ⟨h.filed manifest hmanifest, rfl⟩

theorem runs_delete (s : σ) :
    ∃ exchanges after results, Runs respond router.delete s exchanges after (.ok results) ∧
      view after = router.settings.parts.foldl Cluster.deleted (view s) :=
  runs_attempt (fun _ _ ↦ rfl) fun part _ s ↦ answers_deletion h.faithful part s

theorem runs_update (s : σ) :
    ∃ exchanges after results, Runs respond (router.update rendered) s exchanges after (.ok results) ∧
      view after = router.replaced rendered (view s) := by
  obtain ⟨first, middle, deleted, hdelete, hmiddle⟩ := h.runs_delete s
  obtain ⟨second, after, created, hcreate, hafter⟩ := h.runs_create middle
  refine ⟨first ++ second, after, deleted ++ created, ?_, ?_⟩
  · exact runs_update_iff.mpr
      (.inr ⟨deleted, first, middle, second, .ok created, hdelete, hcreate, rfl, rfl⟩)
  · rw [hafter, hmiddle]
    rfl

/-- Where a part is missing, all rendered parts are created. -/
theorem runs_run_of_missing (hs : Orderly router items (view s))
    (hmissing : ((view s).shown router.settings.parts).isDeployed = false) :
    ∃ exchanges after results,
      Runs respond router.run s exchanges after (.ok (.done .present results)) ∧
        view after = rendered.manifests.foldl Cluster.created (view s) := by
  obtain ⟨seen, middle, hobserve, hmiddle⟩ := runs_observe h.faithful hs.sound.shows
  obtain ⟨asked, later, hprepare, hlater⟩ :=
    h.prepares middle ((congrArg Cluster.items hmiddle).trans hs.items)
  obtain ⟨created, after, results, hcreate, hafter⟩ := h.runs_create later
  have hperform : Runs respond (router.perform .create rendered) later created after
      (.ok (.done .present results)) := by
    rw [perform_create h.performs, h.state, runs_map_iff]
    exact ⟨.ok results, hcreate, rfl⟩
  have hview : view after = rendered.manifests.foldl Cluster.created (view s) := calc
    view after = rendered.manifests.foldl Cluster.created (view later) := hafter
    _ = rendered.manifests.foldl Cluster.created (view s) := by rw [hlater, hmiddle]
  refine ⟨seen ++ (asked ++ created), after, results, ?_, hview⟩
  rw [run_eq]
  refine hobserve.bind ?_
  simp only [proceed, h.state, hmissing, h.performs, if_neg Bool.false_ne_true]
  exact hprepare.bind hperform

/-- Where no part is missing, the pass goes on as the comparison with what is prepared tells. -/
theorem runs_run_of_deployed (hs : Orderly router items (view s))
    (hdeployed : ((view s).shown router.settings.parts).isDeployed = true) {needs : Bool}
    (hneeds : needsUpdate router.settings ((view s).shown router.settings.parts) rendered =
      .ok needs) :
    ∃ seen later, Prepared respond router s seen ((view s).shown router.settings.parts) rendered ∧
      view later = view s ∧ ∀ exchanges after result,
      Runs respond (if needs then router.perform .update rendered else pure (.unchanged .present))
        later exchanges after result → Runs respond router.run s (seen ++ exchanges) after result := by
  obtain ⟨seen, middle, hobserve, hmiddle⟩ := runs_observe h.faithful hs.sound.shows
  obtain ⟨asked, later, hprepare, hlater⟩ :=
    h.prepares middle ((congrArg Cluster.items hmiddle).trans hs.items)
  refine ⟨seen ++ asked, later, ⟨hobserve, hprepare⟩, hlater.trans hmiddle,
    fun exchanges after result hrest ↦ ?_⟩
  rw [List.append_assoc]
  exact runs_run_of_needs h.state hdeployed hobserve hprepare hneeds hrest

/-- What was created from a rendering where nothing was live matches it. -/
theorem matches_created {cluster : Cluster} (hempty : ∀ kind, cluster.live kind = none)
    {kind : Kind} {wanted : Manifest} (hwanted : rendered.get? kind = some wanted) :
    ∃ seen, ((rendered.manifests.foldl Cluster.created cluster).shown router.settings.parts).get? kind =
      some seen ∧ Matches seen wanted := by
  obtain ⟨part, hpart, hkind, hget⟩ := get?_shown_parts router
    (rendered.manifests.foldl Cluster.created cluster) kind
  obtain ⟨object, hstored, hequal, hnamed⟩ := h.exists_stored hwanted
  have hlive : (rendered.manifests.foldl Cluster.created cluster).live kind = some object := calc
    (rendered.manifests.foldl Cluster.created cluster).live kind
        = (cluster.live kind).or ((rendered.get? kind).bind Manifest.stored?) :=
      h.live_created cluster kind
    _ = (rendered.get? kind).bind Manifest.stored? := by rw [hempty, Option.none_or]
    _ = some object := by rw [hwanted, Option.bind_some, hstored]
  have hformed : object.WellFormed := Yaml.wellFormed_of_decode hstored
  have hroot := (hnamed part hpart hkind).root_manifest part
  refine ⟨part.manifest object, by rw [hget, hlive, Option.map_some], ?_⟩
  exact {
    observedDot := rfl
    renderedDot := h.complete.dotted kind wanted hwanted
    observedFormed := hroot.symm ▸ hformed
    renderedFormed := h.keepable.wellFormed kind wanted hwanted
    equal := by rw [hroot, Value.beq_comm, hequal] }

end Reconciles

/-! ### Passes in a row -/

/-- The router is deployed and has not drifted from what is rendered. -/
structure Settled (router : Router) (items : List Value) (rendered : Bundle) (cluster : Cluster) :
    Prop where
  orderly : Orderly router items cluster
  deployed : (cluster.shown router.settings.parts).isDeployed = true
  current : needsUpdate router.settings (cluster.shown router.settings.parts) rendered = .ok false

namespace Reconciles

variable (h : Reconciles respond view router items rendered)

include h

theorem changes_of_missing (hs : Orderly router items (view s))
    (hmissing : ((view s).shown router.settings.parts).isDeployed = false) :
    router.Changes respond s ∧
      view (router.pass respond s).state = rendered.manifests.foldl Cluster.created (view s) := by
  obtain ⟨exchanges, after, results, hrun, hafter⟩ := h.runs_run_of_missing hs hmissing
  have hpass : router.pass respond s = ⟨exchanges, after, .ok (.done .present results)⟩ := hrun
  exact ⟨⟨.done .present results, by rw [hpass], rfl⟩, by rw [hpass, hafter]⟩

theorem changes_of_drifted (hs : Orderly router items (view s))
    (hdeployed : ((view s).shown router.settings.parts).isDeployed = true)
    (hneeds : needsUpdate router.settings ((view s).shown router.settings.parts) rendered =
      .ok true) :
    router.Changes respond s ∧
      view (router.pass respond s).state = router.replaced rendered (view s) := by
  obtain ⟨seen, later, -, hlater, hcontinue⟩ := h.runs_run_of_deployed hs hdeployed hneeds
  obtain ⟨updated, after, results, hupdate, hafter⟩ := h.runs_update later
  have hperform : Runs respond (router.perform .update rendered) later updated after
      (.ok (.done .present results)) := by
    rw [perform_update h.performs, h.state, runs_map_iff]
    exact ⟨.ok results, hupdate, rfl⟩
  have hpass : router.pass respond s = ⟨seen ++ updated, after, .ok (.done .present results)⟩ :=
    hcontinue _ _ _ hperform
  exact ⟨⟨.done .present results, by rw [hpass], rfl⟩, by rw [hpass, hafter, hlater]⟩

/-- What was just created in place of all parts has not drifted. -/
theorem settled_replaced {cluster : Cluster} (hs : Orderly router items cluster) :
    Settled router items rendered (router.replaced rendered cluster) := by
  have hempty := live_deleted router cluster
  have horderly : Orderly router items (router.settings.parts.foldl Cluster.deleted cluster) := by
    refine ⟨(Cluster.items_foldl_deleted _ _).trans hs.items, fun part _ object hlive ↦ ?_⟩
    rw [hempty] at hlive
    contradiction
  refine ⟨h.orderly_created horderly, h.deployed_created _, ?_⟩
  exact needsUpdate_of_matches router.settings h.keepable.deployed
    (fun kind wanted hwanted ↦ h.matches_created hempty hwanted) h.keepable.ports

theorem rests_of_settled (hs : Settled router items rendered (view s)) :
    router.Rests respond view rendered s := by
  obtain ⟨seen, later, hprepared, hlater, hcontinue⟩ :=
    h.runs_run_of_deployed hs.orderly hs.deployed hs.current
  have hpass : router.pass respond s = ⟨seen ++ [], later, .ok (.unchanged .present)⟩ :=
    hcontinue _ _ _ (runs_pure_iff.mpr ⟨rfl, rfl, rfl⟩)
  rw [List.append_nil] at hpass
  exact {
    unchanged := ⟨.unchanged .present, by rw [hpass], rfl⟩
    quiet := by rw [hpass]; exact hprepared.quiet
    kept := by rw [hpass, hlater]
    deployed := isDeployed_shown_iff.mp hs.deployed
    current := ⟨_, by rw [hpass]; exact hprepared, hs.current⟩ }

theorem settlesAfter_of_settled (hs : Settled router items rendered (view s)) :
    router.SettlesAfter respond view rendered 0 s := by
  refine settlesAfter_zero (fun s ↦ Settled router items rendered (view s)) hs
    (fun s ↦ h.rests_of_settled) fun s hs ↦ ?_
  rw [(h.rests_of_settled hs).kept]
  exact hs

/-- A deployed router settles after one pass at most. -/
theorem settlesAfter_of_deployed (hs : Orderly router items (view s))
    (hdeployed : ((view s).shown router.settings.parts).isDeployed = true) :
    ∃ k ≤ 1, router.SettlesAfter respond view rendered k s := by
  obtain ⟨needs, hneeds⟩ := needsUpdate_succeeds router.settings hdeployed h.complete
  cases needs with
  | false => exact ⟨0, Nat.zero_le 1, h.settlesAfter_of_settled ⟨hs, hdeployed, hneeds⟩⟩
  | true =>
    obtain ⟨hchanges, hafter⟩ := h.changes_of_drifted hs hdeployed hneeds
    have hsettled := hafter ▸ h.settled_replaced hs
    exact ⟨1, Nat.le_refl 1, .succ hchanges (h.settlesAfter_of_settled hsettled)⟩

theorem settlesAfter (hs : Orderly router items (view s)) :
    ∃ k ≤ 2, router.SettlesAfter respond view rendered k s := by
  cases hdeployed : ((view s).shown router.settings.parts).isDeployed with
  | true =>
    obtain ⟨k, hk, hsettles⟩ := h.settlesAfter_of_deployed hs hdeployed
    exact ⟨k, Nat.le_succ_of_le hk, hsettles⟩
  | false =>
    obtain ⟨hchanges, hafter⟩ := h.changes_of_missing hs hdeployed
    have horderly := hafter ▸ h.orderly_created hs
    have hdeployed := hafter ▸ h.deployed_created (view s)
    -- What was left alone may have drifted, so one more pass may be needed.
    obtain ⟨k, hk, hsettles⟩ := h.settlesAfter_of_deployed horderly hdeployed
    exact ⟨k + 1, Nat.succ_le_succ hk, .succ hchanges hsettles⟩

end Reconciles

/-- What a faithful party was once prepared for stays so. -/
theorem reconciles_of_prepare (hfaithful : Faithful respond view)
    (hstate : router.settings.state = .present) (hperforms : router.checkOnly = false)
    (hprepare : (Program.run respond router.prepare.run s).result = .ok rendered)
    (hkeepable : Keepable router rendered) (hfiles : router.CanFile rendered) :
    Reconciles respond view router (view s).items rendered := by
  have hruns : Runs respond router.prepare s _ _ _ := runs_of_run router.prepare s
  rw [hprepare] at hruns
  exact ⟨hfaithful, hstate, hperforms, prepares_of_runs hfaithful hruns, rendered_of_prepare hruns,
    hkeepable, hfiles⟩

/-- Reconciliation converges: on a faithful cluster, whatever is live there under the names of the
parts, a wanted router that can be kept settles after two passes at most, as long as temporary files
can be made of what is rendered. -/
theorem run_converges {respond : σ → Request → Reply × σ} {view : σ → Cluster}
    (hfaithful : Faithful respond view) {router : Router}
    (hstate : router.settings.state = .present) (hperforms : router.checkOnly = false) {s : σ}
    (hsound : (view s).Sound router.settings.parts) {rendered : Bundle}
    (hprepare : (Program.run respond router.prepare.run s).result = .ok rendered)
    (hkeepable : Keepable router rendered) (hfiles : router.CanFile rendered) :
    ∃ k ≤ 2, router.SettlesAfter respond view rendered k s :=
  (reconciles_of_prepare hfaithful hstate hperforms hprepare hkeepable hfiles).settlesAfter
    ⟨rfl, hsound⟩

def smallObject (kind : Kind) (name : String) (more : Fields) : Value :=
  .map ([("kind", .string kind.name), ("metadata", .map [("name", .string name)])] ++ more)

def smallService : Value :=
  smallObject .service "router"
    [("spec", .map [("ports", .list [.map [("protocol", .string defaultProtocol)]])])]

/-- The parts of a router with one port. -/
def smallBundle : Bundle where
  manifests := [
    ⟨.deploymentConfig, "router", .ofRoot (smallObject .deploymentConfig "router" [])⟩,
    ⟨.service, "router", .ofRoot smallService⟩,
    ⟨.serviceAccount, "router", .ofRoot (smallObject .serviceAccount "router" [])⟩,
    ⟨.secret, "router-certs", .ofRoot (smallObject .secret "router-certs" [])⟩]

/-- The service with its port taken away. -/
def driftedService : Value :=
  smallObject .service "router" [("spec", .map [("ports", .list [])])]

/-- A cluster with nothing but a service that has drifted. -/
def smallCluster : Cluster :=
  .ofObjects [driftedService] (smallBundle.manifests.map (·.document.root))

def smallRouter : Router where
  settings := {}
  files := .ofDirectory "/"
  place := { directory := "/tmp", token := "0" }

theorem keepable_smallBundle : Keepable smallRouter smallBundle where
  deployed := by decide
  kinds := by decide
  named := by
    intro manifest hmanifest part hpart hkind
    simp only [smallBundle, List.mem_cons, List.not_mem_nil, or_false] at hmanifest
    simp only [smallRouter, Settings.parts, List.mem_cons, List.not_mem_nil, or_false] at hpart
    rcases hmanifest with rfl | rfl | rfl | rfl <;>
      rcases hpart with rfl | rfl | rfl | rfl | rfl <;> first | contradiction | exact ⟨rfl, rfl⟩
  stored := by
    have hall : (smallBundle.manifests.all fun manifest ↦
        manifest.stored?.any (· == manifest.document.root)) = true := by decide +kernel
    intro manifest hmanifest
    exact (Option.any_eq_true _ _).mp (List.all_eq_true.mp hall manifest hmanifest)
  ports := by
    rintro service ⟨⟩ port hport protocol hprotocol
    have hports : listAt (.ofRoot smallService) Service.portsPath =
        [.map [("protocol", .string defaultProtocol)]] := by
      rw [listAt_eq Service.parse_portsPath rfl]
      rfl
    rw [hports] at hport
    cases List.mem_singleton.mp hport
    cases hprotocol
    rfl

theorem canFile_smallBundle : smallRouter.CanFile smallBundle := by
  have hall : (smallBundle.manifests.all fun manifest ↦
      decide (smallRouter.place.Takes (smallRouter.fileOf manifest))) = true := by decide +kernel
  intro manifest hmanifest
  exact of_decide_eq_true (List.all_eq_true.mp hall manifest hmanifest)

theorem sound_smallCluster : smallCluster.Sound smallRouter.settings.parts := by
  intro part hpart object hlive
  simp only [smallRouter, Settings.parts, List.mem_cons, List.not_mem_nil, or_false] at hpart
  rcases hpart with rfl | rfl | rfl | rfl | rfl <;> cases hlive
  exact ⟨rfl, rfl⟩

theorem prepare_smallBundle :
    (Program.run Cluster.respond smallRouter.prepare.run smallCluster).result = .ok smallBundle :=
  rfl

theorem reconciles_smallBundle :
    Reconciles Cluster.respond id smallRouter smallCluster.items smallBundle :=
  reconciles_of_prepare Cluster.faithful_respond rfl rfl prepare_smallBundle keepable_smallBundle
    canFile_smallBundle

/-- The cluster with all missing parts, and with the service as it was. -/
def mendedCluster : Cluster := smallBundle.manifests.foldl Cluster.created smallCluster

theorem live_mendedCluster (kind : Kind) : mendedCluster.live kind =
    (smallCluster.live kind).or ((smallBundle.get? kind).bind Manifest.stored?) :=
  reconciles_smallBundle.live_created smallCluster kind

theorem live_service_mendedCluster : mendedCluster.live .service = some driftedService := by
  rw [live_mendedCluster]
  rfl

theorem orderly_mendedCluster : Orderly smallRouter smallCluster.items mendedCluster :=
  reconciles_smallBundle.orderly_created ⟨rfl, sound_smallCluster⟩

theorem deployed_mendedCluster :
    (mendedCluster.shown smallRouter.settings.parts).isDeployed = true :=
  reconciles_smallBundle.deployed_created smallCluster

theorem wellFormed_mendedCluster {kind : Kind} {object : Value}
    (h : mendedCluster.live kind = some object) : object.WellFormed := by
  rw [live_mendedCluster] at h
  rcases Option.or_eq_some_iff.mp h with hold | ⟨-, hnew⟩
  · cases kind <;> cases hold
    exact ⟨by decide, trivial, ⟨by decide, trivial, trivial⟩, ⟨by decide, trivial, trivial⟩,
      trivial⟩
  · obtain ⟨manifest, -, hstored⟩ := Option.bind_eq_some_iff.mp hnew
    exact Yaml.wellFormed_of_decode hstored

/-- Once no part is missing, the service has drifted. -/
theorem needsUpdate_mendedCluster :
    needsUpdate smallRouter.settings (mendedCluster.shown smallRouter.settings.parts) smallBundle =
      .ok true := by
  have hservice : (mendedCluster.shown smallRouter.settings.parts).get? .service =
      some (Part.manifest ⟨.service, "router"⟩ driftedService) := by
    have hpart : ⟨.service, "router"⟩ ∈ smallRouter.settings.parts := by decide
    have hshown := mendedCluster.get?_shown smallRouter.settings.nodup_parts hpart
    rw [live_service_mendedCluster] at hshown
    exact hshown
  have hdrifted : partDrifted smallRouter.settings
      (mendedCluster.shown smallRouter.settings.parts) smallBundle .service = true := by
    rw [partDrifted_of_get? hservice rfl]
    decide +kernel
  rw [needsUpdate_eq_any smallRouter.settings deployed_mendedCluster
    (orderly_mendedCluster.sound.wellFormed_shown smallRouter.settings.nodup_parts
      fun _ _ ↦ wellFormed_mendedCluster)
    reconciles_smallBundle.complete keepable_smallBundle.wellFormed]
  exact congrArg _ (List.any_eq_true.mpr ⟨.service, by decide, hdrifted⟩)

/-- The first pass creates the missing parts and leaves the service alone, the second one replaces
it, and after that nothing changes. -/
theorem run_converges_of_drifted_service :
    smallRouter.CanFile smallBundle ∧
      smallRouter.SettlesAfter Cluster.respond id smallBundle 2 smallCluster ∧
      (smallRouter.afterPasses Cluster.respond 1 smallCluster).live .service =
        some driftedService ∧
      ∃ service, (smallRouter.afterPasses Cluster.respond 2 smallCluster).live .service =
        some service ∧ (service == smallService) = true := by
  obtain ⟨k, hk, hsettles⟩ := run_converges Cluster.faithful_respond rfl rfl sound_smallCluster
    prepare_smallBundle keepable_smallBundle canFile_smallBundle
  obtain ⟨-, hfirst⟩ := reconciles_smallBundle.changes_of_missing (s := smallCluster)
    ⟨rfl, sound_smallCluster⟩ rfl
  obtain ⟨hchanges, hsecond⟩ := reconciles_smallBundle.changes_of_drifted (s := mendedCluster)
    orderly_mendedCluster deployed_mendedCluster needsUpdate_mendedCluster
  rw [id_eq, id_eq, ← mendedCluster] at hfirst
  rw [id_eq, id_eq] at hsecond
  have hafterFirst : smallRouter.afterPasses Cluster.respond 1 smallCluster = mendedCluster := by
    rw [afterPasses_succ, afterPasses_zero, hfirst]
  have hafterSecond : smallRouter.afterPasses Cluster.respond 2 smallCluster =
      smallRouter.replaced smallBundle mendedCluster := by
    rw [afterPasses_succ, hfirst, afterPasses_succ, afterPasses_zero, hsecond]
  rw [← hafterFirst] at hchanges
  obtain rfl : k = 2 := Nat.le_antisymm hk (hsettles.lt_of_changes hchanges)
  have hservice : smallBundle.get? .service = some ⟨.service, "router", .ofRoot smallService⟩ := rfl
  obtain ⟨service, hstored, hequal, -⟩ := reconciles_smallBundle.exists_stored hservice
  have hlive : (smallRouter.afterPasses Cluster.respond 2 smallCluster).live .service =
      some service := by
    rw [hafterSecond, replaced, reconciles_smallBundle.live_created, live_deleted, Option.none_or,
      hservice, Option.bind_some, hstored]
  refine ⟨canFile_smallBundle, hsettles, ?_, service, hlive, hequal⟩
  rw [hafterFirst, live_service_mendedCluster]

end Router

end ClusterRouter
