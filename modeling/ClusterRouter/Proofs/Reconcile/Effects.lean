import ClusterRouter.Proofs.Cluster.Faithful
import ClusterRouter.Proofs.Reconcile.Preparation
import ClusterRouter.Proofs.Value.Equality

/-!
# What a pass does to a faithful cluster

Observing shows the live objects, preparing gives the same bundle each time, and the attempts to
create and to delete parts never fail. Each of them is described by the cluster before and after.
-/

namespace ClusterRouter

open Program (Exchange)

/-- An object that states this name and is not a list of objects. -/
structure Named (name : String) (object : Value) : Prop where
  stated : (object.field? "metadata").bind (Value.field? · "name") = some (.string name)
  single : object.field? "items" = none

namespace Named

variable {name : String} {object : Value}

theorem nameOf (h : Named name object) : Manifest.nameOf object = name := by
  rw [Manifest.nameOf, h.stated]
  rfl

theorem exists_map (h : Named name object) : ∃ fields, object = .map fields := by
  obtain ⟨metadata, hmetadata, -⟩ := Option.bind_eq_some_iff.mp h.stated
  cases object <;> first | exact ⟨_, rfl⟩ | contradiction

theorem documents (h : Named name object) :
    CommandResult.documents { results := object } = [object] := by
  obtain ⟨fields, rfl⟩ := h.exists_map
  have hsingle : Fields.get? fields "items" = none := h.single
  simp only [CommandResult.documents, hsingle]

end Named

/-- What is observed of an object as a part: the first document in it, if it states the name. -/
def Part.document? (part : Part) (object : Value) : Option Value :=
  if Manifest.nameOf object = part.name then
    (CommandResult.documents { results := object }).find? fun document ↦ document.asMap.isSome
  else none

theorem Named.document? {part : Part} {object : Value} (h : Named part.name object) :
    part.document? object = some object := by
  rw [Part.document?, if_pos h.nameOf, h.documents]
  obtain ⟨fields, rfl⟩ := h.exists_map
  rfl

/-- The object that a cluster keeps of a manifest. -/
def Manifest.stored? (manifest : Manifest) : Option Value :=
  Yaml.decode? (Yaml.render manifest.document.root)

/-- The manifest of an object that was observed as a part. -/
def Part.manifest (part : Part) (object : Value) : Manifest :=
  ⟨part.kind, part.name, .ofRoot object⟩

theorem Named.root_manifest {name : String} {object : Value} (h : Named name object) (part : Part) :
    (part.manifest object).document.root = object := by
  obtain ⟨fields, rfl⟩ := h.exists_map
  rfl

theorem Bundle.get?_cons (manifest : Manifest) (manifests : List Manifest) (kind : Kind) :
    Bundle.get? ⟨manifest :: manifests⟩ kind =
      if manifest.kind = kind then some manifest else Bundle.get? ⟨manifests⟩ kind := by
  rw [get?, List.find?_cons]
  by_cases h : manifest.kind = kind
  · rw [if_pos h, decide_eq_true h]
  · rw [if_neg h, decide_eq_false h]
    rfl

namespace Cluster

/-- What observing a part adds to a bundle. -/
def showPart (cluster : Cluster) (bundle : Bundle) (part : Part) : Bundle :=
  match cluster.live part.kind with
  | some object => bundle.insert (part.manifest object)
  | none => bundle

/-- What observing parts shows of a cluster. -/
def shown (cluster : Cluster) (parts : List Part) : Bundle := parts.foldl cluster.showPart {}

/-- Every live object that is a part carries the name of that part. -/
def Sound (cluster : Cluster) (parts : List Part) : Prop :=
  ∀ part ∈ parts, ∀ object, cluster.live part.kind = some object → Named part.name object

/-- What is observed of a part is what the cluster `seen` shows of it. -/
def Shows (cluster seen : Cluster) (part : Part) : Prop :=
  seen.live part.kind = (cluster.live part.kind).bind part.document?

/-- Of a live object that carries the name of its part, all is observed. -/
theorem Sound.shows {cluster : Cluster} {parts : List Part} (h : cluster.Sound parts) :
    ∀ part ∈ parts, cluster.Shows cluster part := by
  intro part hpart
  rw [Shows]
  cases hlive : cluster.live part.kind with
  | none => rfl
  | some object => exact (h part hpart object hlive).document?.symm

/-- Creating a manifest makes what it is decoded to live, unless its kind is. -/
def created (cluster : Cluster) (manifest : Manifest) : Cluster :=
  match cluster.live manifest.kind with
  | some _ => cluster
  | none => cluster.put manifest.kind manifest.stored?

theorem get?_showPart_of_ne (cluster : Cluster) (bundle : Bundle) {part : Part} {kind : Kind}
    (h : kind ≠ part.kind) : (cluster.showPart bundle part).get? kind = bundle.get? kind := by
  unfold showPart
  split
  · rw [Bundle.get?_insert]
    exact if_neg h
  · rfl

theorem get?_showPart_self (cluster : Cluster) {bundle : Bundle} {part : Part}
    (h : bundle.get? part.kind = none) :
    (cluster.showPart bundle part).get? part.kind = (cluster.live part.kind).map part.manifest := by
  unfold showPart
  split
  · next object hlive =>
    rw [hlive, Bundle.get?_insert]
    exact if_pos rfl
  · next hlive => rw [hlive, h, Option.map_none]

/-- Parts of other kinds do not matter for what is shown of a kind. -/
theorem get?_foldl_showPart (cluster : Cluster) {kind : Kind} {parts : List Part}
    (h : kind ∉ parts.map Part.kind) (bundle : Bundle) :
    (parts.foldl cluster.showPart bundle).get? kind = bundle.get? kind := by
  induction parts generalizing bundle with
  | nil => rfl
  | cons part parts ih =>
    rw [List.map_cons, List.mem_cons, not_or] at h
    rw [List.foldl_cons, ih h.2, get?_showPart_of_ne cluster bundle h.1]

/-- Of parts of different kinds, what is live is shown. -/
theorem get?_shown (cluster : Cluster) {parts : List Part} (hkinds : (parts.map Part.kind).Nodup)
    {part : Part} (hpart : part ∈ parts) :
    (cluster.shown parts).get? part.kind = (cluster.live part.kind).map part.manifest := by
  obtain ⟨before, after, rfl⟩ := List.append_of_mem hpart
  rw [List.map_append, List.map_cons, List.nodup_append, List.nodup_cons] at hkinds
  obtain ⟨-, ⟨hafter, -⟩, hbefore⟩ := hkinds
  have hmissing : (before.foldl cluster.showPart {}).get? part.kind = none := by
    rw [get?_foldl_showPart]
    · rfl
    · intro hmem
      exact hbefore part.kind hmem part.kind List.mem_cons_self rfl
  rw [shown, List.foldl_append, List.foldl_cons, get?_foldl_showPart cluster hafter,
    get?_showPart_self cluster hmissing]

/-- Nothing but the parts is shown. -/
theorem exists_of_get?_shown (cluster : Cluster) {parts : List Part} {kind : Kind}
    {manifest : Manifest} (h : (cluster.shown parts).get? kind = some manifest) :
    ∃ part ∈ parts, part.kind = kind := by
  by_contra hnone
  have hkind : kind ∉ parts.map Part.kind := fun hmem ↦ hnone (List.mem_map.mp hmem)
  rw [shown, get?_foldl_showPart cluster hkind] at h
  contradiction

/-- What is shown of well-formed objects is well formed. -/
theorem Sound.wellFormed_shown {cluster : Cluster} {parts : List Part} (h : cluster.Sound parts)
    (hkinds : (parts.map Part.kind).Nodup)
    (hformed : ∀ kind object, cluster.live kind = some object → object.WellFormed) :
    (cluster.shown parts).WellFormed := by
  intro kind manifest hmanifest
  obtain ⟨part, hpart, rfl⟩ := cluster.exists_of_get?_shown hmanifest
  rw [cluster.get?_shown hkinds hpart] at hmanifest
  obtain ⟨object, hlive, rfl⟩ := Option.map_eq_some_iff.mp hmanifest
  rw [(h part hpart object hlive).root_manifest part]
  exact hformed part.kind object hlive

theorem live_put (cluster : Cluster) (kind k : Kind) (object : Option Value) :
    (cluster.put kind object).live k = if k = kind then object else cluster.live k := rfl

theorem put_none_of_missing {cluster : Cluster} {kind : Kind} (h : cluster.live kind = none) :
    cluster.put kind none = cluster := by
  have hlive : (cluster.put kind none).live = cluster.live := by
    funext k
    rw [live_put]
    split
    · next hk => rw [hk, h]
    · rfl
  exact congrArg (fun live ↦ Cluster.mk live cluster.items) hlive

theorem items_foldl_created (cluster : Cluster) (manifests : List Manifest) :
    (manifests.foldl created cluster).items = cluster.items := by
  induction manifests generalizing cluster with
  | nil => rfl
  | cons manifest manifests ih =>
    rw [List.foldl_cons, ih, created]
    split <;> rfl

theorem live_created_of_ne (cluster : Cluster) {manifest : Manifest} {kind : Kind}
    (h : kind ≠ manifest.kind) : (cluster.created manifest).live kind = cluster.live kind := by
  unfold created
  split
  · rfl
  · rw [live_put, if_neg h]

theorem live_created_self (cluster : Cluster) (manifest : Manifest) :
    (cluster.created manifest).live manifest.kind =
      (cluster.live manifest.kind).or manifest.stored? := by
  unfold created
  split
  · next object hlive => rw [hlive, Option.some_or]
  · next hlive => rw [live_put, if_pos rfl, hlive, Option.none_or]

/-- Creating all manifests leaves what is live and adds what is not. -/
theorem live_foldl_created {manifests : List Manifest}
    (h : ∀ manifest ∈ manifests, manifest.stored?.isSome = true)
    (cluster : Cluster) (kind : Kind) :
    (manifests.foldl created cluster).live kind =
      (cluster.live kind).or ((Bundle.get? ⟨manifests⟩ kind).bind Manifest.stored?) := by
  induction manifests generalizing cluster with
  | nil => exact (Option.or_none).symm
  | cons manifest manifests ih =>
    obtain ⟨hfirst, hrest⟩ := List.forall_mem_cons.mp h
    rw [List.foldl_cons, ih hrest, Bundle.get?_cons]
    split
    · next hkind =>
      subst hkind
      obtain ⟨object, hobject⟩ := Option.isSome_iff_exists.mp hfirst
      rw [live_created_self, Option.bind_some, hobject, Option.or_assoc, Option.some_or]
    · next hkind => rw [live_created_of_ne cluster (Ne.symm hkind)]

/-- Deleting a part makes nothing of its kind live. -/
def deleted (cluster : Cluster) (part : Part) : Cluster := cluster.put part.kind none

theorem live_foldl_deleted (cluster : Cluster) {parts : List Part} {kind : Kind}
    (h : kind ∈ parts.map Part.kind ∨ cluster.live kind = none) :
    (parts.foldl deleted cluster).live kind = none := by
  induction parts generalizing cluster with
  | nil => exact h.resolve_left List.not_mem_nil
  | cons part parts ih =>
    refine ih (cluster.deleted part) ?_
    by_cases hkind : kind = part.kind
    · exact .inr (if_pos hkind)
    · refine h.imp (fun hmem ↦ ?_) fun hnone ↦ (if_neg hkind).trans hnone
      exact (List.mem_cons.mp hmem).resolve_left hkind

theorem items_foldl_deleted (cluster : Cluster) (parts : List Part) :
    (parts.foldl deleted cluster).items = cluster.items := by
  induction parts generalizing cluster with
  | nil => rfl
  | cons part parts ih => exact ih (cluster.deleted part)

end Cluster

/-! ### Runs against a faithful party -/

namespace Reconcile

variable {σ α : Type} {respond : σ → Request → Reply × σ} {view : σ → Cluster} {s : σ}

theorem runs_ask_of_respond {request : Request} {result : CommandResult} {after : σ}
    (h : respond s request = (.ok result, after)) :
    Runs respond (ask request) s [⟨request, .ok result⟩] after (.ok result) := by
  rw [runs_ask_iff, h]
  exact ⟨rfl, rfl, rfl⟩

theorem observedDocument?_of_failed {result : CommandResult} (h : result.succeeded = false) :
    observedDocument? result = none := by
  rw [observedDocument?, h]
  rfl

theorem observedDocument?_of_found {result : CommandResult} {part : Part} {object : Value}
    (h : result.succeeded = true) (hname : Manifest.nameOf object = part.name)
    (hdocuments : result.documents = CommandResult.documents { results := object }) :
    observedDocument? result = part.document? object := by
  rw [observedDocument?, if_pos h, hdocuments, Part.document?, if_pos hname]

theorem runs_observePart_of_respond {part : Part} {result : CommandResult} {after : σ}
    (h : respond s (.get part.kind part.name none) = (.ok result, after)) (seen : Cluster)
    (hseen : seen.live part.kind = observedDocument? result) (bundle : Bundle) :
    ∃ exchanges, Runs respond (observePart part bundle) s exchanges after
      (.ok (seen.showPart bundle part)) := by
  refine ⟨_ ++ [], (runs_ask_of_respond h).bind ?_⟩
  rw [Cluster.showPart, hseen]
  cases observedDocument? result <;> exact runs_pure_iff.mpr ⟨rfl, rfl, rfl⟩

/-- Observing shows what is live under the name of the part and changes nothing. -/
theorem runs_observePart (hremoving : Removing respond view) {part : Part} {seen : Cluster}
    (hseen : (view s).Shows seen part) (bundle : Bundle) :
    ∃ exchanges after, Runs respond (observePart part bundle) s exchanges after
      (.ok (seen.showPart bundle part)) ∧ view after = view s := by
  by_cases hfound : ∃ object, (view s).live part.kind = some object ∧
      Manifest.nameOf object = part.name
  · obtain ⟨object, hlive, hname⟩ := hfound
    obtain ⟨result, after, hrespond, hafter, hsucceeded, hdocuments⟩ :=
      hremoving.getFound s part.kind part.name object hlive hname
    have hshown : seen.live part.kind = observedDocument? result := by
      rw [hseen, hlive, Option.bind_some, observedDocument?_of_found hsucceeded hname hdocuments]
    obtain ⟨exchanges, hruns⟩ := runs_observePart_of_respond hrespond seen hshown bundle
    exact ⟨exchanges, after, hruns, hafter⟩
  · have hmissing (object : Value) (hlive : (view s).live part.kind = some object) :
        Manifest.nameOf object ≠ part.name :=
      fun hname ↦ hfound ⟨object, hlive, hname⟩
    obtain ⟨result, after, hrespond, hafter, hfailed⟩ :=
      hremoving.getMissing s part.kind part.name hmissing
    have hshown : seen.live part.kind = observedDocument? result := by
      rw [hseen, observedDocument?_of_failed hfailed, Option.bind_eq_none_iff]
      exact fun object hlive ↦ if_neg (hmissing object hlive)
    obtain ⟨exchanges, hruns⟩ := runs_observePart_of_respond hrespond seen hshown bundle
    exact ⟨exchanges, after, hruns, hafter⟩

theorem runs_observeParts (hremoving : Removing respond view) {parts : List Part} {seen : Cluster}
    (hseen : ∀ part ∈ parts, (view s).Shows seen part) (bundle : Bundle) :
    ∃ exchanges after, Runs respond (observeParts parts bundle) s exchanges after
      (.ok (parts.foldl seen.showPart bundle)) ∧ view after = view s := by
  induction parts generalizing s bundle with
  | nil => exact ⟨[], s, runs_pure_iff.mpr ⟨rfl, rfl, rfl⟩, rfl⟩
  | cons part parts ih =>
    obtain ⟨hpart, hrest⟩ := List.forall_mem_cons.mp hseen
    obtain ⟨first, middle, hfirst, hmiddle⟩ := runs_observePart hremoving hpart bundle
    rw [← hmiddle] at hrest
    obtain ⟨second, after, hsecond, hafter⟩ := ih hrest (seen.showPart bundle part)
    exact ⟨first ++ second, after, hfirst.bind hsecond, hafter.trans hmiddle⟩

section

variable {words : String} {make : α → Except ReconcileError Request} {request : α → Request}
  {effect : Cluster → α → Cluster} {items : List α}

/-- One command for each item has the effects of all of them, in their order. -/
theorem runs_askEach (hmake : ∀ item ∈ items, make item = .ok (request item))
    (h : ∀ item ∈ items, ∀ s, Answers respond view s (request item) fun result after ↦
      after = effect (view s) item ∧ (result.succeeded || result.failedWith words) = true) :
    ∃ exchanges after results,
      Runs respond (askEach make items) s exchanges after (.ok results) ∧
        view after = items.foldl effect (view s) ∧
        (results.all fun result ↦ result.succeeded || result.failedWith words) = true := by
  induction items generalizing s with
  | nil => exact ⟨[], s, [], runs_pure_iff.mpr ⟨rfl, rfl, rfl⟩, rfl, rfl⟩
  | cons item items ih =>
    obtain ⟨hmade, hmakes⟩ := List.forall_mem_cons.mp hmake
    obtain ⟨hfirst, hrest⟩ := List.forall_mem_cons.mp h
    obtain ⟨result, middle, hrespond, hmiddle, htolerated⟩ := hfirst s
    obtain ⟨exchanges, after, results, hruns, hafter, hall⟩ := @ih middle hmakes hrest
    have hasks : Runs respond (askEach make (item :: items)) s
        (⟨request item, .ok result⟩ :: exchanges) after (.ok (result :: results)) := by
      refine (runs_askEach_cons_iff hmade).mpr (.inr ⟨result, exchanges, ?_⟩)
      rw [hrespond]
      exact ⟨rfl, ⟨.ok results, hruns, rfl⟩, rfl⟩
    refine ⟨_, after, result :: results, hasks, ?_, ?_⟩
    · rw [hafter, hmiddle, List.foldl_cons]
    · rw [List.all_cons, htolerated, hall]
      rfl

/-- An attempt of which every command is tolerated succeeds and has all their effects. -/
theorem runs_attempt {action : PartsAction} (hmake : ∀ item ∈ items, make item = .ok (request item))
    (h : ∀ item ∈ items, ∀ s, Answers respond view s (request item) fun result after ↦
      after = effect (view s) item ∧ (result.succeeded || result.failedWith words) = true) :
    ∃ exchanges after results,
      Runs respond (attempt action words make items) s exchanges after (.ok results) ∧
        view after = items.foldl effect (view s) := by
  obtain ⟨exchanges, after, results, hruns, hafter, hall⟩ := runs_askEach hmake h
  refine ⟨exchanges ++ [], after, results, hruns.bind (runs_decided_iff.mpr ⟨rfl, rfl, ?_⟩), hafter⟩
  rw [tolerating, if_pos hall]

end

end Reconcile

namespace Settings

theorem kind_mem_parts (settings : Settings) (kind : Kind) :
    kind ∈ settings.parts.map Part.kind :=
  kind.mem_all

theorem nodup_parts (settings : Settings) : (settings.parts.map Part.kind).Nodup :=
  Kind.nodup_all

end Settings

namespace Router

open Reconcile

variable {σ : Type} {respond : σ → Request → Reply × σ} {view : σ → Cluster} {router : Router}
  {s : σ}

theorem runs_observe (hfaithful : Faithful respond view) {seen : Cluster}
    (hseen : ∀ part ∈ router.settings.parts, (view s).Shows seen part) :
    ∃ exchanges after, Runs respond router.observe s exchanges after
      (.ok (seen.shown router.settings.parts)) ∧ view after = view s :=
  runs_observeParts hfaithful.removing hseen {}

/-- Wherever the same items are rendered, this bundle is prepared. -/
def Prepares (respond : σ → Request → Reply × σ) (view : σ → Cluster) (router : Router)
    (items : List Value) (rendered : Bundle) : Prop :=
  ∀ s, (view s).items = items → ∃ exchanges after,
    Runs respond router.prepare s exchanges after (.ok rendered) ∧ view after = view s

/-- What was prepared once is prepared each time. -/
theorem prepares_of_runs (hfaithful : Faithful respond view) {exchanges : List Exchange} {after : σ}
    {rendered : Bundle} (h : Runs respond router.prepare s exchanges after (.ok rendered)) :
    Prepares respond view router (view s).items rendered := by
  intro start hitems
  cases hcertificate : router.certificate with
  | error e =>
    obtain ⟨-, -, hresult⟩ := h.unique (runs_prepare_of_error hcertificate s)
    contradiction
  | ok certificate =>
    obtain ⟨-, -, hresult⟩ := h.unique (runs_prepare hcertificate s)
    obtain ⟨first, afterFirst, hfirst, -, hfirstSucceeded, hfirstDecoded, hfirstItems⟩ :=
      hfaithful.render s router.settings.name
        (router.settings.renderOptions (certificate.map Artifact.path)) certificate
    obtain ⟨second, afterSecond, hsecond, hview, hsecondSucceeded, hsecondDecoded, hsecondItems⟩ :=
      hfaithful.render start router.settings.name
        (router.settings.renderOptions (certificate.map Artifact.path)) certificate
    have hfirst : respond s (router.rendering certificate) = (.ok first, afterFirst) := hfirst
    have hsecond : respond start (router.rendering certificate) = (.ok second, afterSecond) :=
      hsecond
    have hbundle : bundleOf second = bundleOf first :=
      bundleOf_congr hsecondSucceeded hfirstSucceeded hsecondDecoded hfirstDecoded
        (hitems ▸ hsecondItems) hfirstItems
    rw [hfirst] at hresult
    have hprepared : router.prepared (.ok second) = .ok rendered := calc
      router.prepared (.ok second) = (bundleOf second).bind router.modified := rfl
      _ = (bundleOf first).bind router.modified := by rw [hbundle]
      _ = .ok rendered := hresult.symm
    have hruns : Runs respond router.prepare start _ _ _ := runs_prepare hcertificate start
    rw [hsecond, hprepared] at hruns
    exact ⟨_, afterSecond, hruns, hview⟩

theorem answers_creation (hfaithful : Faithful respond view) {manifest : Manifest} {object : Value}
    (hstored : manifest.stored? = some object)
    (hkind : Manifest.kindOf? object = some manifest.kind) (s : σ) :
    Answers respond view s (router.creation manifest) fun result after ↦
      after = (view s).created manifest ∧
        (result.succeeded || result.failedWith "already exist") = true := by
  have hobject : Cluster.objectOf? (router.fileOf manifest) = some object := calc
    Cluster.objectOf? (router.fileOf manifest) = manifest.stored? :=
      Cluster.objectOf?_ofDocument _ _ _
    _ = some object := hstored
  unfold Cluster.created
  cases hlive : (view s).live manifest.kind with
  | none =>
    obtain ⟨result, after, hrespond, hafter, hsucceeded⟩ :=
      hfaithful.createFree s _ object manifest.kind hobject hkind hlive
    refine ⟨result, after, hrespond, ?_, by rw [hsucceeded, Bool.true_or]⟩
    rw [hafter, hstored]
  | some old =>
    obtain ⟨result, after, hrespond, hafter, hfailed⟩ :=
      hfaithful.createTaken s _ object manifest.kind hobject hkind (by simp [hlive])
    have hexists : result.failedWith ("already exist" ++ "s") = true := hfailed
    refine ⟨result, after, hrespond, hafter, ?_⟩
    rw [CommandResult.failedWith_of_append hexists, Bool.or_true]

theorem answers_deletion_of_removing (hremoving : Removing respond view) (part : Part) (s : σ) :
    Answers respond view s (deletion part) fun result after ↦
      after = (view s).deleted part ∧
        (result.succeeded || result.failedWith "not found") = true := by
  by_cases hlive : (view s).live part.kind = none
  · obtain ⟨result, after, hrespond, hafter, hfailed⟩ :=
      hremoving.deleteMissing s part.kind part.name hlive
    refine ⟨result, after, hrespond, ?_, by rw [hfailed, Bool.or_true]⟩
    rw [hafter, Cluster.deleted, Cluster.put_none_of_missing hlive]
  · obtain ⟨result, after, hrespond, hafter, hsucceeded⟩ :=
      hremoving.deleteLive s part.kind part.name hlive
    exact ⟨result, after, hrespond, hafter, by rw [hsucceeded, Bool.true_or]⟩

theorem answers_deletion (hfaithful : Faithful respond view) (part : Part) (s : σ) :
    Answers respond view s (deletion part) fun result after ↦
      after = (view s).deleted part ∧
        (result.succeeded || result.failedWith "not found") = true :=
  answers_deletion_of_removing hfaithful.removing part s

end Router

end ClusterRouter
