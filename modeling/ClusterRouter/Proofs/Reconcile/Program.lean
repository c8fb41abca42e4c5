import Mathlib.Data.List.Basic
import Mathlib.Tactic.Common
import ClusterRouter.Reconcile.Router

/-!
# Runs of reconciliations

`Runs` relates a reconciliation and the state of the answering party before it to the exchanges
that are made, the state after them and the result. Nothing is asked of the party: it may answer
anything at any time. One equivalence for each way of building a reconciliation takes such a run
apart or puts it together.
-/

namespace ClusterRouter

open Program (Exchange Outcome)

namespace Program

variable {σ α β : Type} {respond : σ → Request → Reply × σ}

theorem run_bind (x : Program α) (f : α → Program β) (s : σ) :
    run respond (x.bind f) s =
      { run respond (f (run respond x s).result) (run respond x s).state with
        exchanges := (run respond x s).exchanges ++
          (run respond (f (run respond x s).result) (run respond x s).state).exchanges } := by
  induction x generalizing s with
  | done result => rfl
  | ask request next ih => simp only [bind, run, ih, List.cons_append]
  | settle next ih => exact ih s

end Program

namespace Reconcile

variable {σ α β : Type}

/-- The run of `x` from the state `s` makes these exchanges and ends so. -/
def Runs (respond : σ → Request → Reply × σ) (x : Reconciling α) (s : σ)
    (exchanges : List Exchange) (after : σ) (result : Except ReconcileError α) : Prop :=
  Program.run respond x.run s = ⟨exchanges, after, result⟩

section

variable {respond : σ → Request → Reply × σ} {s after : σ} {exchanges : List Exchange}

theorem runs_of_run (x : Reconciling α) (s : σ) :
    Runs respond x s (Program.run respond x.run s).exchanges (Program.run respond x.run s).state
      (Program.run respond x.run s).result := rfl

/-- A run is determined by where it starts. -/
theorem Runs.unique {x : Reconciling α} {result result' : Except ReconcileError α}
    {exchanges' : List Exchange} {after' : σ} (h : Runs respond x s exchanges after result)
    (h' : Runs respond x s exchanges' after' result') :
    exchanges = exchanges' ∧ after = after' ∧ result = result' := by
  simpa using h.symm.trans h'

theorem runs_decided_iff {outcome result : Except ReconcileError α} :
    Runs respond (decided outcome) s exchanges after result ↔
      exchanges = [] ∧ after = s ∧ result = outcome := by
  constructor
  · intro h
    cases h
    exact ⟨rfl, rfl, rfl⟩
  · rintro ⟨rfl, rfl, rfl⟩
    rfl

theorem runs_pure_iff {a : α} {result : Except ReconcileError α} :
    Runs respond (pure a) s exchanges after result ↔
      exchanges = [] ∧ after = s ∧ result = .ok a :=
  runs_decided_iff

theorem runs_throw_iff {e : ReconcileError} {result : Except ReconcileError α} :
    Runs respond (throw e) s exchanges after result ↔
      exchanges = [] ∧ after = s ∧ result = .error e :=
  runs_decided_iff

theorem runs_settle_iff {result : Except ReconcileError Unit} :
    Runs respond settle s exchanges after result ↔
      exchanges = [] ∧ after = s ∧ result = .ok () := by
  constructor
  · intro h
    cases h
    exact ⟨rfl, rfl, rfl⟩
  · rintro ⟨rfl, rfl, rfl⟩
    rfl

theorem runs_ask_iff {request : Request} {result : Except ReconcileError CommandResult} :
    Runs respond (ask request) s exchanges after result ↔
      exchanges = [⟨request, (respond s request).1⟩] ∧ after = (respond s request).2 ∧
        result = (respond s request).1.mapError .request := by
  constructor
  · intro h
    cases h
    exact ⟨rfl, rfl, rfl⟩
  · rintro ⟨rfl, rfl, rfl⟩
    rfl

theorem Runs.bind {x : Reconciling α} {f : α → Reconciling β} {a : α} {middle : σ}
    {first second : List Exchange} {result : Except ReconcileError β}
    (hx : Runs respond x s first middle (.ok a))
    (hf : Runs respond (f a) middle second after result) :
    Runs respond (x >>= f) s (first ++ second) after result := by
  rw [Runs] at *
  refine (Program.run_bind x.run _ s).trans ?_
  rw [hx]
  exact congrArg (fun outcome : Outcome σ (Except ReconcileError β) ↦
    { outcome with exchanges := first ++ outcome.exchanges }) hf

theorem Runs.bind_error {x : Reconciling α} {f : α → Reconciling β} {e : ReconcileError}
    (hx : Runs respond x s exchanges after (.error e)) :
    Runs respond (x >>= f) s exchanges after (.error e) := by
  rw [Runs] at *
  refine (Program.run_bind x.run _ s).trans ?_
  rw [hx]
  exact congrArg (fun all ↦ Outcome.mk all after _) (List.append_nil exchanges)

/-- Either the first part fails, or the second one goes on where it has ended. -/
theorem runs_bind_iff {x : Reconciling α} {f : α → Reconciling β}
    {result : Except ReconcileError β} :
    Runs respond (x >>= f) s exchanges after result ↔
      (∃ e, Runs respond x s exchanges after (.error e) ∧ result = .error e) ∨
        ∃ a first middle second, Runs respond x s first middle (.ok a) ∧
          Runs respond (f a) middle second after result ∧ exchanges = first ++ second := by
  constructor
  · intro h
    have hx : Runs respond x s _ _ _ := runs_of_run x s
    cases hresult : (Program.run respond x.run s).result with
    | error e =>
      rw [hresult] at hx
      obtain ⟨rfl, rfl, rfl⟩ := h.unique hx.bind_error
      exact .inl ⟨e, hx, rfl⟩
    | ok a =>
      rw [hresult] at hx
      obtain ⟨rfl, rfl, rfl⟩ := h.unique (hx.bind (runs_of_run (f a) _))
      exact .inr ⟨a, _, _, _, hx, runs_of_run (f a) _, rfl⟩
  · rintro (⟨e, hx, rfl⟩ | ⟨a, first, middle, second, hx, hf, rfl⟩)
    · exact hx.bind_error
    · exact hx.bind hf

theorem map_eq_bind (f : α → β) (x : Reconciling α) : f <$> x = x >>= fun a ↦ pure (f a) := by
  change ExceptT.mk (x.run.bind _) = ExceptT.mk (x.run.bind _)
  congr

theorem runs_map_iff {x : Reconciling α} {f : α → β} {result : Except ReconcileError β} :
    Runs respond (f <$> x) s exchanges after result ↔
      ∃ found, Runs respond x s exchanges after found ∧ result = found.map f := by
  rw [map_eq_bind, runs_bind_iff]
  constructor
  · rintro (⟨e, hx, rfl⟩ | ⟨a, first, middle, second, hx, hf, rfl⟩)
    · exact ⟨.error e, hx, rfl⟩
    · obtain ⟨rfl, rfl, rfl⟩ := runs_pure_iff.mp hf
      exact ⟨.ok a, by rwa [List.append_nil], rfl⟩
  · rintro ⟨e | a, hx, rfl⟩
    · exact .inl ⟨e, hx, rfl⟩
    · exact .inr ⟨a, exchanges, after, [], hx, runs_pure_iff.mpr ⟨rfl, rfl, rfl⟩,
        (List.append_nil exchanges).symm⟩

end

/-! ### One request for each item -/

/-- One request for each item in turn, ended early by an item of which no request can be made, or by
a request that the party cannot run. -/
inductive Asked (make : α → Except ReconcileError Request) :
    List α → List Exchange → Except ReconcileError (List CommandResult) → Prop where
  | nil : Asked make [] [] (.ok [])
  | unmade {item : α} {items : List α} {e : ReconcileError} :
    make item = .error e → Asked make (item :: items) [] (.error e)
  | refused {item : α} {items : List α} {request : Request} {cause : RequestError} :
    make item = .ok request →
      Asked make (item :: items) [⟨request, .error cause⟩] (.error (.request cause))
  | answered {item : α} {items : List α} {request : Request} {reply : CommandResult}
      {exchanges : List Exchange} {result : Except ReconcileError (List CommandResult)} :
    make item = .ok request → Asked make items exchanges result →
      Asked make (item :: items) (⟨request, .ok reply⟩ :: exchanges) (result.map (reply :: ·))

section

variable {respond : σ → Request → Reply × σ} {s after : σ} {exchanges : List Exchange}
  {make : α → Except ReconcileError Request} {item : α} {items : List α}
  {result : Except ReconcileError (List CommandResult)}

theorem runs_askEach_of_error {e : ReconcileError} (h : make item = .error e) (items : List α)
    (s : σ) : Runs respond (askEach make (item :: items)) s [] s (.error e) :=
  (runs_decided_iff.mpr ⟨rfl, rfl, h.symm⟩).bind_error

/-- Where a request can be made of the first item, either it cannot be run, or the asking goes on
with the other items where the reply to it leads. -/
theorem runs_askEach_cons_iff {request : Request} (h : make item = .ok request) :
    Runs respond (askEach make (item :: items)) s exchanges after result ↔
      (∃ cause, (respond s request).1 = .error cause ∧ exchanges = [⟨request, .error cause⟩] ∧
        after = (respond s request).2 ∧ result = .error (.request cause)) ∨
      ∃ reply rest, (respond s request).1 = .ok reply ∧
        (∃ found, Runs respond (askEach make items) (respond s request).2 rest after found ∧
          result = found.map (reply :: ·)) ∧
        exchanges = ⟨request, .ok reply⟩ :: rest := by
  have hcons : askEach make (item :: items) =
      ask request >>= fun reply ↦ (reply :: ·) <$> askEach make items := by
    simp only [askEach, h, map_eq_bind]
    rfl
  rw [hcons, runs_bind_iff]
  cases hreply : (respond s request).1 with
  | error cause => simp [runs_ask_iff, hreply, Except.mapError, and_assoc]
  | ok reply => simp [runs_ask_iff, runs_map_iff, hreply, Except.mapError]

theorem asked_of_runs (h : Runs respond (askEach make items) s exchanges after result) :
    Asked make items exchanges result := by
  induction items generalizing s exchanges result with
  | nil =>
    obtain ⟨rfl, -, rfl⟩ := runs_pure_iff.mp h
    exact .nil
  | cons item items ih =>
    cases hmake : make item with
    | error e =>
      obtain ⟨rfl, -, rfl⟩ := h.unique (runs_askEach_of_error hmake items s)
      exact .unmade hmake
    | ok request =>
      rcases (runs_askEach_cons_iff hmake).mp h with
        ⟨cause, -, rfl, -, rfl⟩ | ⟨reply, rest, -, ⟨found, hrest, rfl⟩, rfl⟩
      · exact .refused hmake
      · exact .answered hmake (ih hrest)

end

/-- Whatever request is made of an item, it is this one. -/
def Makes (make : α → Except ReconcileError Request) (request : α → Request) : Prop :=
  ∀ item made, make item = .ok made → made = request item

/-- The exchanges are about these items: one request was made of each. -/
def MadeOf (make : α → Except ReconcileError Request) (items : List α)
    (exchanges : List Exchange) : Prop :=
  items.map make = exchanges.map fun exchange ↦ .ok exchange.request

namespace MadeOf

variable {make : α → Except ReconcileError Request} {request : α → Request} {items : List α}
  {exchanges : List Exchange}

theorem cons {item : α} {exchange : Exchange} (hmake : make item = .ok exchange.request)
    (h : MadeOf make items exchanges) : MadeOf make (item :: items) (exchange :: exchanges) := by
  rw [MadeOf, List.map_cons, hmake, h, List.map_cons]

theorem requests_eq (h : MadeOf make items exchanges) (hmakes : Makes make request) :
    exchanges.map Exchange.request = items.map request := by
  induction items generalizing exchanges with
  | nil =>
    cases List.map_eq_nil_iff.mp h.symm
    rfl
  | cons item items ih =>
    cases exchanges with
    | nil => contradiction
    | cons exchange exchanges =>
      obtain ⟨hitem, hitems⟩ := List.cons.inj h
      rw [List.map_cons, List.map_cons, hmakes item _ hitem, ih hitems]

theorem exists_item (h : MadeOf make items exchanges) {exchange : Exchange}
    (hexchange : exchange ∈ exchanges) : ∃ item ∈ items, make item = .ok exchange.request := by
  have hmem : Except.ok exchange.request ∈ items.map make :=
    h ▸ List.mem_map_of_mem hexchange
  exact List.mem_map.mp hmem

theorem exists_made (h : MadeOf make items exchanges) {item : α} (hitem : item ∈ items) :
    ∃ made, make item = .ok made := by
  have hmem : make item ∈ exchanges.map fun exchange ↦ .ok exchange.request :=
    h ▸ List.mem_map_of_mem hitem
  obtain ⟨exchange, -, hmake⟩ := List.mem_map.mp hmem
  exact ⟨exchange.request, hmake.symm⟩

end MadeOf

namespace Asked

variable {make : α → Except ReconcileError Request} {items : List α} {exchanges : List Exchange}
  {result : Except ReconcileError (List CommandResult)}

/-- The exchanges are about the items from the beginning on. -/
theorem exists_asked (h : Asked make items exchanges result) :
    ∃ earlier later, items = earlier ++ later ∧ MadeOf make earlier exchanges := by
  induction h with
  | nil => exact ⟨[], [], rfl, rfl⟩
  | unmade hmake => exact ⟨[], _, rfl, rfl⟩
  | refused hmake => exact ⟨[_], _, rfl, .cons hmake rfl⟩
  | answered hmake _ ih =>
    obtain ⟨earlier, later, rfl, hearlier⟩ := ih
    exact ⟨_ :: earlier, later, rfl, hearlier.cons hmake⟩

/-- Where the asking has not ended early, every item was asked for. -/
theorem of_ok {replies : List CommandResult} (h : Asked make items exchanges (.ok replies)) :
    MadeOf make items exchanges ∧ exchanges.map Exchange.reply = replies.map .ok := by
  generalize hresult : Except.ok replies = result at h
  induction h generalizing replies with
  | nil =>
    cases hresult
    exact ⟨rfl, rfl⟩
  | unmade | refused => contradiction
  | @answered _ _ _ _ _ rest hmake _ ih =>
    cases rest with
    | error e => contradiction
    | ok rest =>
      cases hresult
      obtain ⟨hitems, hreplies⟩ := ih rfl
      exact ⟨hitems.cons hmake, congrArg _ hreplies⟩

/-- The asking ends early with an item of which no request can be made, after those before it were
asked for, or with a request that the party cannot run. -/
theorem of_error {e : ReconcileError} (h : Asked make items exchanges (.error e)) :
    (∃ earlier item later, items = earlier ++ item :: later ∧ make item = .error e ∧
      MadeOf make earlier exchanges) ∨
    ∃ cause earlier item request, e = .request cause ∧ make item = .ok request ∧
      exchanges = earlier ++ [⟨request, .error cause⟩] := by
  generalize hresult : Except.error e = result at h
  induction h with
  | nil => contradiction
  | unmade hmake =>
    cases hresult
    exact .inl ⟨[], _, _, rfl, hmake, rfl⟩
  | refused hmake =>
    cases hresult
    exact .inr ⟨_, [], _, _, rfl, hmake, rfl⟩
  | @answered first _ _ _ _ rest hmake _ ih =>
    cases rest with
    | ok rest => contradiction
    | error _ =>
      cases hresult
      rcases ih rfl with
        ⟨earlier, item, later, rfl, hitem, hearlier⟩ | ⟨cause, earlier, item, request, rfl, hitem, rfl⟩
      · exact .inl ⟨first :: earlier, item, later, rfl, hitem, hearlier.cons hmake⟩
      · exact .inr ⟨cause, _ :: earlier, item, request, rfl, hitem, rfl⟩

end Asked

/-- One request for each item; the replies may only fail with the given words. -/
def attempt (action : PartsAction) (words : String) (make : α → Except ReconcileError Request)
    (items : List α) : Reconciling (List CommandResult) := do
  let results ← askEach make items
  decided (tolerating action words results)

/-- What an attempt comes to: the replies, if every request could be made and run and every reply is
a success or a tolerated failure. -/
def Attempted (action : PartsAction) (words : String) (make : α → Except ReconcileError Request)
    (items : List α) (exchanges : List Exchange)
    (result : Except ReconcileError (List CommandResult)) : Prop :=
  ∃ asked, Asked make items exchanges asked ∧ result = asked.bind (tolerating action words)

theorem attempted_of_runs {respond : σ → Request → Reply × σ} {s after : σ}
    {exchanges : List Exchange} {action : PartsAction} {words : String}
    {make : α → Except ReconcileError Request} {items : List α}
    {result : Except ReconcileError (List CommandResult)}
    (h : Runs respond (attempt action words make items) s exchanges after result) :
    Attempted action words make items exchanges result := by
  rcases runs_bind_iff.mp h with ⟨e, hask, rfl⟩ | ⟨replies, first, middle, second, hask, hrest, rfl⟩
  · exact ⟨_, asked_of_runs hask, rfl⟩
  · obtain ⟨rfl, -, rfl⟩ := runs_decided_iff.mp hrest
    rw [List.append_nil]
    exact ⟨_, asked_of_runs hask, rfl⟩

theorem eq_of_tolerating {action : PartsAction} {words : String}
    {results tolerated : List CommandResult} (h : tolerating action words results = .ok tolerated) :
    tolerated = results ∧
      ∀ result ∈ results, result.succeeded = true ∨ result.failedWith words = true := by
  unfold tolerating at h
  split at h <;> cases h
  next hall => exact ⟨rfl, by simpa using hall⟩

namespace Attempted

variable {action : PartsAction} {words : String} {make : α → Except ReconcileError Request}
  {request : α → Request} {items : List α} {exchanges : List Exchange}
  {result : Except ReconcileError (List CommandResult)}

theorem isPrefix_requests (h : Attempted action words make items exchanges result)
    (hmakes : Makes make request) : exchanges.map Exchange.request <+: items.map request := by
  obtain ⟨asked, hasked, -⟩ := h
  obtain ⟨earlier, later, rfl, hearlier⟩ := hasked.exists_asked
  rw [hearlier.requests_eq hmakes, List.map_append]
  exact List.prefix_append _ _

theorem exists_item (h : Attempted action words make items exchanges result) {exchange : Exchange}
    (hexchange : exchange ∈ exchanges) : ∃ item ∈ items, make item = .ok exchange.request := by
  obtain ⟨asked, hasked, -⟩ := h
  obtain ⟨earlier, later, rfl, hearlier⟩ := hasked.exists_asked
  obtain ⟨item, hitem, hmake⟩ := hearlier.exists_item hexchange
  exact ⟨item, List.mem_append_left later hitem, hmake⟩

theorem filter_eq_self (h : Attempted action words make items exchanges result)
    {p : Request → Bool} (hp : ∀ item made, make item = .ok made → p made = true) :
    exchanges.filter (fun exchange ↦ p exchange.request) = exchanges := by
  apply List.filter_eq_self.mpr
  intro exchange hexchange
  obtain ⟨item, -, hmake⟩ := h.exists_item hexchange
  exact hp item _ hmake

theorem filter_eq_nil (h : Attempted action words make items exchanges result)
    {p : Request → Bool} (hp : ∀ item made, make item = .ok made → p made = false) :
    exchanges.filter (fun exchange ↦ p exchange.request) = [] := by
  apply List.filter_eq_nil_iff.mpr
  intro exchange hexchange
  obtain ⟨item, -, hmake⟩ := h.exists_item hexchange
  rw [hp item _ hmake]
  exact Bool.false_ne_true

/-- Where a request can be made of every item, every item was asked for, unless the last request
could not be run. -/
theorem requests_or_refused (h : Attempted action words make items exchanges result)
    (hmake : ∀ item, make item = .ok (request item)) :
    exchanges.map Exchange.request = items.map request ∨
      ∃ cause earlier item, result = .error (.request cause) ∧
        exchanges = earlier ++ [⟨request item, .error cause⟩] := by
  have hmakes : Makes make request := fun item made hmade ↦
    Except.ok.inj (hmade.symm.trans (hmake item))
  obtain ⟨asked, hasked, rfl⟩ := h
  cases asked with
  | ok replies => exact .inl (hasked.of_ok.1.requests_eq hmakes)
  | error e =>
    rcases hasked.of_error with
      ⟨-, item, -, -, hnot, -⟩ | ⟨cause, earlier, item, made, rfl, hmade, hexchanges⟩
    · rw [hmake] at hnot
      contradiction
    · rw [hmakes item made hmade] at hexchanges
      exact .inr ⟨cause, earlier, item, rfl, hexchanges⟩

/-- Something was asked for unless there was nothing to ask for, or no request could be made of the
first item. -/
theorem exchanges_ne_nil_or_error (h : Attempted action words make items exchanges result)
    (hitems : items ≠ []) : exchanges ≠ [] ∨ ∃ e, result = .error e := by
  obtain ⟨asked, hasked, rfl⟩ := h
  cases asked with
  | ok replies =>
    left
    rintro rfl
    exact hitems (List.map_eq_nil_iff.mp hasked.of_ok.1)
  | error e => exact .inr ⟨e, rfl⟩

theorem exchanges_ne_nil (h : Attempted action words make items exchanges result)
    (hmake : ∀ item, make item = .ok (request item)) (hitems : items ≠ []) : exchanges ≠ [] := by
  rcases h.requests_or_refused hmake with hrequests | ⟨cause, earlier, item, -, rfl⟩
  · rintro rfl
    exact hitems (List.map_eq_nil_iff.mp hrequests.symm)
  · simp

theorem of_ok {replies : List CommandResult}
    (h : Attempted action words make items exchanges (.ok replies)) (hmakes : Makes make request) :
    exchanges.map Exchange.request = items.map request ∧
      exchanges.map Exchange.reply = replies.map .ok ∧
      ∀ reply ∈ replies, reply.succeeded = true ∨ reply.failedWith words = true := by
  obtain ⟨asked, hasked, hresult⟩ := h
  cases asked with
  | error e => contradiction
  | ok asked =>
    obtain ⟨rfl, hreplies⟩ := eq_of_tolerating hresult.symm
    exact ⟨hasked.of_ok.1.requests_eq hmakes, hasked.of_ok.2, hreplies⟩

end Attempted

end Reconcile

end ClusterRouter
