import ClusterRouter.Proofs.Cluster.Faithful
import ClusterRouter.Proofs.Reconcile.Pass

/-!
# Attempts that are carried through

Where every command can be run, no failure of one keeps another from being asked for, and none is
lost: the outputs of all are collected in order before any of them is judged. Only a temporary file
that cannot be made ends the creations early, and then the outputs so far are lost.
-/

namespace ClusterRouter

open Program (Exchange Outcome)

variable {σ α : Type} {respond : σ → Request → Reply × σ}

/-- The party gets every command to run, whatever becomes of it. -/
def Spawning (respond : σ → Request → Reply × σ) : Prop :=
  ∀ s request, ∃ output, (respond s request).1 = .ok output

theorem Program.exists_reply_eq_ok (hspawning : Spawning respond) (x : Program α) (s : σ) :
    ∀ exchange ∈ (Program.run respond x s).exchanges, ∃ output, exchange.reply = .ok output := by
  induction x generalizing s with
  | done result => simp [run]
  | ask request next ih =>
    refine List.forall_mem_cons.mpr ⟨hspawning s request, ?_⟩
    exact ih _ _
  | settle next ih => exact ih s

/-- The output tells of success, or its errors carry the words. -/
def CommandResult.Tolerated (words : String) (output : CommandResult) : Prop :=
  output.returnCode = 0 ∨ words.toList <:+: output.stderr.toList

theorem CommandResult.tolerated_iff {words : String} {output : CommandResult} :
    output.Tolerated words ↔ (output.succeeded || output.failedWith words) = true := by
  rw [Tolerated, failedWith, ← Text.contains_iff_toList, ← beq_iff_eq (a := output.returnCode)]
  change output.succeeded = true ∨ _ ↔ _
  cases output.succeeded <;> simp

namespace Reconcile

variable {action : PartsAction} {words : String} {outputs : List CommandResult}

theorem tolerating_eq_ok_iff : tolerating action words outputs = .ok outputs ↔
    ∀ output ∈ outputs, output.Tolerated words := by
  have hall : (outputs.all fun output ↦ output.succeeded || output.failedWith words) = true ↔
      ∀ output ∈ outputs, output.Tolerated words := by
    simp only [List.all_eq_true, CommandResult.tolerated_iff]
  rw [← hall, tolerating]
  split
  next htolerated => simp [htolerated]
  next hnot => simp [hnot]

theorem tolerating_eq_error_iff :
    tolerating action words outputs = .error (.parts action outputs) ↔
      ∃ output ∈ outputs, ¬ output.Tolerated words := by
  calc
    _ ↔ tolerating action words outputs ≠ .ok outputs := by
      rw [tolerating]
      split <;> simp
    _ ↔ ∃ output ∈ outputs, ¬ output.Tolerated words := by
      simp only [Ne, tolerating_eq_ok_iff, not_forall, exists_prop]

/-- All requests were made in order, and all their outputs are in the result, which is a failure of
the action if one of them cannot be tolerated. -/
structure Collected (action : PartsAction) (words : String) (requests : List Request)
    (outputs : List CommandResult)
    (outcome : Outcome σ (Except ReconcileError (List CommandResult))) : Prop where
  requests : outcome.exchanges.map Exchange.request = requests
  replies : outcome.exchanges.map Exchange.reply = outputs.map .ok
  ok_iff : outcome.result = .ok outputs ↔ ∀ output ∈ outputs, output.Tolerated words
  error_iff : outcome.result = .error (.parts action outputs) ↔
    ∃ output ∈ outputs, ¬ output.Tolerated words

section

variable {make : α → Except ReconcileError Request} {request : α → Request} {items : List α}

/-- Where every command can be run, only an item of which no request can be made ends the asking
early. -/
theorem cases_of_attempt (hspawning : Spawning respond) (action : PartsAction) (words : String)
    (make : α → Except ReconcileError Request) (items : List α) (s : σ) :
    let outcome := Program.run respond (attempt action words make items).run s
    (∃ outputs, MadeOf make items outcome.exchanges ∧
      outcome.exchanges.map Exchange.reply = outputs.map .ok ∧
      outcome.result = tolerating action words outputs) ∨
    ∃ earlier item later e, items = earlier ++ item :: later ∧ make item = .error e ∧
      MadeOf make earlier outcome.exchanges ∧ outcome.result = .error e := by
  have hruns : Runs respond (attempt action words make items) s _ _ _ := runs_of_run _ s
  obtain ⟨asked, hasked, hresult⟩ := attempted_of_runs hruns
  cases asked with
  | ok outputs => exact .inl ⟨outputs, hasked.of_ok.1, hasked.of_ok.2, hresult⟩
  | error e =>
    rcases hasked.of_error with
      ⟨earlier, item, later, hitems, hmake, hearlier⟩ |
        ⟨cause, earlier, item, made, -, -, hexchanges⟩
    · exact .inr ⟨earlier, item, later, e, hitems, hmake, hearlier, hresult⟩
    · obtain ⟨output, houtput⟩ := Program.exists_reply_eq_ok hspawning
        (attempt action words make items).run s ⟨made, .error cause⟩ (by simp [hexchanges])
      contradiction

theorem exists_collected (hspawning : Spawning respond) (action : PartsAction) (words : String)
    (hmakes : Makes make request) (hmade : ∀ item ∈ items, ∃ made, make item = .ok made) (s : σ) :
    ∃ outputs, Collected action words (items.map request) outputs
      (Program.run respond (attempt action words make items).run s) := by
  rcases cases_of_attempt hspawning action words make items s with
    ⟨outputs, hrequests, hreplies, hresult⟩ | ⟨earlier, item, later, e, rfl, hmake, -, -⟩
  · refine ⟨outputs, hrequests.requests_eq hmakes, hreplies, ?_, ?_⟩
    · rw [hresult, tolerating_eq_ok_iff]
    · rw [hresult, tolerating_eq_error_iff]
  · obtain ⟨made, hmade⟩ := hmade item (by simp)
    rw [hmake] at hmade
    contradiction

/-- The first item of which no request can be made ends the asking: those before it were asked for,
and what stands against it is the result. -/
theorem exists_stopped (hspawning : Spawning respond) (action : PartsAction) (words : String)
    (hmakes : Makes make request) (hnot : ¬ ∀ item ∈ items, ∃ made, make item = .ok made) (s : σ) :
    let outcome := Program.run respond (attempt action words make items).run s
    ∃ earlier item later e, items = earlier ++ item :: later ∧
      (∀ before ∈ earlier, ∃ made, make before = .ok made) ∧ make item = .error e ∧
      outcome.exchanges.map Exchange.request = earlier.map request ∧ outcome.result = .error e := by
  rcases cases_of_attempt hspawning action words make items s with
    ⟨outputs, hrequests, -, -⟩ | ⟨earlier, item, later, e, hitems, hmake, hearlier, hresult⟩
  · exact absurd (fun _ ↦ hrequests.exists_made) hnot
  · exact ⟨earlier, item, later, e, hitems, fun _ ↦ hearlier.exists_made, hmake,
      hearlier.requests_eq hmakes, hresult⟩

end

end Reconcile

namespace Router

open Reconcile

/-- Deletions, creations and replacements that no failed command has stopped or got lost in. What
stops creations is a part of which no temporary file can be made. -/
structure CarriedThrough (respond : σ → Request → Reply × σ) (router : Router)
    (bundle : Bundle) : Prop where
  deletes (s : σ) : ∃ outputs,
    Collected .delete "not found" (router.settings.parts.map deletion) outputs
      (Program.run respond router.delete.run s)
  /-- The parts are one of each kind, in the order of the kinds. -/
  kinds : router.settings.parts.map Part.kind = Kind.all
  creates (s : σ) : router.CanFile bundle → ∃ outputs,
    Collected .create "already exist"
      (Kind.all.filterMap fun kind ↦ (bundle.get? kind).map router.creation) outputs
      (Program.run respond (router.create bundle).run s)
  /-- Otherwise the parts before the first one without a file are asked for, and that is all. -/
  creates_of_fault (s : σ) : ¬ router.CanFile bundle →
    ∃ earlier manifest later cause, Kind.all.filterMap bundle.get? = earlier ++ manifest :: later ∧
      (∀ before ∈ earlier, router.place.Takes (router.fileOf before)) ∧
      router.place.create (router.fileOf manifest) = .error cause ∧
      (Program.run respond (router.create bundle).run s).exchanges.map Exchange.request =
        earlier.map router.creation ∧
      (Program.run respond (router.create bundle).run s).result = .error (.artifact cause)
  /-- A replacement whose deletions fail ends there. -/
  update_of_error (s : σ) (e : ReconcileError) :
    (Program.run respond router.delete.run s).result = .error e →
      Program.run respond (router.update bundle).run s =
          Program.run respond router.delete.run s ∧
        creations (Program.run respond (router.update bundle).run s).exchanges = []
  /-- Otherwise it creates where the deletions have led to, and joins the outputs. -/
  update_of_ok (s : σ) (deleted : List CommandResult) :
    (Program.run respond router.delete.run s).result = .ok deleted →
      Program.run respond (router.update bundle).run s =
        let deleting := Program.run respond router.delete.run s
        let creating := Program.run respond (router.create bundle).run deleting.state
        ⟨deleting.exchanges ++ creating.exchanges, creating.state,
          creating.result.map (deleted ++ ·)⟩

variable {bundle : Bundle}

theorem exists_creationOf_eq_ok_iff {router : Router} {manifest : Manifest} :
    (∃ made, router.creationOf manifest = .ok made) ↔
      router.place.Takes (router.fileOf manifest) := by
  simp [creationOf_eq_ok_iff]

theorem run_update_of_error {router : Router} {s : σ} {e : ReconcileError}
    (h : (Program.run respond router.delete.run s).result = .error e) :
    Program.run respond (router.update bundle).run s =
      Program.run respond router.delete.run s := by
  have hdelete : Runs respond router.delete s _ _ _ := runs_of_run _ s
  rw [h] at hdelete
  have hupdate : Runs respond (router.update bundle) s _ _ _ :=
    runs_update_iff.mpr (.inl ⟨e, hdelete, rfl⟩)
  exact hupdate.trans hdelete.symm

theorem run_update_of_ok {router : Router} {s : σ} {deleted : List CommandResult}
    (h : (Program.run respond router.delete.run s).result = .ok deleted) :
    Program.run respond (router.update bundle).run s =
      let deleting := Program.run respond router.delete.run s
      let creating := Program.run respond (router.create bundle).run deleting.state
      ⟨deleting.exchanges ++ creating.exchanges, creating.state,
        creating.result.map (deleted ++ ·)⟩ := by
  have hdelete : Runs respond router.delete s _ _ _ := runs_of_run _ s
  rw [h] at hdelete
  exact runs_update_iff.mpr
    (.inr ⟨deleted, _, _, _, _, hdelete, runs_of_run (router.create bundle) _, rfl, rfl⟩)

/-- A router with nothing set. -/
def plainRouter : Router where
  settings := {}
  files := .ofDirectory "/"
  place := { directory := "/tmp", token := "0" }

def serviceBundle : Bundle := ⟨[⟨.service, "router", .ofRoot (.map [])⟩]⟩

theorem ordered_serviceBundle : serviceBundle.Ordered :=
  .cons _ (.cons_cons _ (List.nil_sublist _))

def goneOutput : CommandResult := { returnCode := 1, stderr := "Error: router not found" }

def deniedOutput : CommandResult := { returnCode := 1, stderr := "Error: forbidden" }

/-- A party that finds nothing, and is denied its third command. -/
def bereftRespond (count : Nat) (_ : Request) : Reply × Nat :=
  (.ok (if count = 2 then deniedOutput else goneOutput), count + 1)

/-- Every command that can be run is asked for, and its output is kept whatever the others are; of
the failures only those with the tolerated words are passed over. -/
theorem carried_through (hspawning : Spawning respond) (router : Router)
    (hbundle : bundle.Ordered) : CarriedThrough respond router bundle where
  deletes s := exists_collected hspawning .delete "not found" makes_deletion
    (fun part _ ↦ ⟨deletion part, rfl⟩) s
  kinds := rfl
  creates s hfiles := by
    rw [← List.map_filterMap, ← hbundle.manifests_eq]
    exact exists_collected hspawning .create "already exist" router.makes_creation
      (fun manifest hmanifest ↦ exists_creationOf_eq_ok_iff.mpr (hfiles manifest hmanifest)) s
  creates_of_fault s hnot := by
    have hfault : ¬ ∀ manifest ∈ bundle.manifests, ∃ made, router.creationOf manifest = .ok made :=
      fun hmade ↦ hnot fun manifest hmanifest ↦
        exists_creationOf_eq_ok_iff.mp (hmade manifest hmanifest)
    obtain ⟨earlier, manifest, later, e, hsplit, hmade, he, hrequests, hresult⟩ :=
      exists_stopped hspawning .create "already exist" router.makes_creation hfault s
    obtain ⟨cause, hcause, rfl⟩ := creationOf_eq_error_iff.mp he
    rw [← hbundle.manifests_eq]
    exact ⟨earlier, manifest, later, cause, hsplit,
      fun before hbefore ↦ exists_creationOf_eq_ok_iff.mp (hmade before hbefore), hcause, hrequests,
      hresult⟩
  update_of_error s e h := by
    have hdelete : Runs respond router.delete s _ _ _ := runs_of_run _ s
    have hcreations := (deletions_of_attempted (attempted_of_runs hdelete)).2.1
    rw [run_update_of_error h]
    exact ⟨rfl, hcreations⟩
  update_of_ok _ _ := run_update_of_ok

theorem canFile_serviceBundle : plainRouter.CanFile serviceBundle := by
  intro manifest hmanifest
  cases List.mem_singleton.mp hmanifest
  decide +kernel

/-- The third deletion is denied, and all five are asked for. A creation may not fail with the words
that a deletion may fail with. -/
theorem carried_through_of_denied :
    Spawning bereftRespond ∧ serviceBundle.Ordered ∧ plainRouter.CanFile serviceBundle ∧
      (Program.run bereftRespond (plainRouter.create serviceBundle).run 0).result =
        .error (.parts .create [goneOutput]) ∧
      (Program.run bereftRespond (plainRouter.update serviceBundle).run 0).result =
        .error (.parts .delete [goneOutput, goneOutput, deniedOutput, goneOutput, goneOutput]) ∧
      creations (Program.run bereftRespond (plainRouter.update serviceBundle).run 0).exchanges =
        [] := by
  have hspawning : Spawning bereftRespond := fun _ _ ↦ ⟨_, rfl⟩
  have hcarried := carried_through hspawning plainRouter ordered_serviceBundle
  have hcreate : (Program.run bereftRespond (plainRouter.create serviceBundle).run 0).result =
      .error (.parts .create [goneOutput]) := by
    obtain ⟨outputs, hcollected⟩ := hcarried.creates 0 canFile_serviceBundle
    have hreplies : outputs.map Except.ok = [.ok goneOutput] := hcollected.replies.symm
    obtain rfl : outputs = [goneOutput] := by
      obtain ⟨output, rfl, houtput⟩ := List.map_eq_singleton_iff.mp hreplies
      rw [Except.ok.inj houtput]
    refine hcollected.error_iff.mpr ⟨goneOutput, List.mem_singleton_self _, ?_⟩
    rw [CommandResult.tolerated_iff]
    decide +kernel
  have hdelete : (Program.run bereftRespond plainRouter.delete.run 0).result =
      .error (.parts .delete [goneOutput, goneOutput, deniedOutput, goneOutput, goneOutput]) := rfl
  obtain ⟨hupdate, hcreations⟩ := hcarried.update_of_error 0 _ hdelete
  exact ⟨hspawning, ordered_serviceBundle, canFile_serviceBundle, hcreate, hupdate ▸ hdelete,
    hcreations⟩

/-- A device without room for the file of the service. -/
example :
    (Program.run bereftRespond (Router.create { plainRouter with
        place := { plainRouter.place with shortage? := fun _ ↦ some .noSpace } }
      serviceBundle).run 0).result =
        .error (.artifact (.notWritten "/tmp/Service-0.yml" .noSpace)) := rfl

end Router

end ClusterRouter
