import ClusterRouter.Manifest.Secret
import ClusterRouter.Proofs.Document.Editing
import Mathlib.Logic.Function.Basic

/-!
# Secrets as finite maps

The calls of a secret's view succeed, whatever their keys are, and follow a finite map from keys to
values: one call moves the map in one step, and the root's entries other than the data stay as they
were. A run of calls is followed call by call.
-/

namespace ClusterRouter.Secret

/-! ### Calls and the map that they are meant for -/

/-- A call of the view. -/
inductive Call where
  | add (key : String) (value : Value)
  | update (key : String) (value : Value)
  | delete (key : String)

namespace Call

def perform : Call → Editing Bool
  | add key value => Secret.add key value
  | update key value => Secret.update key value
  | delete key => Secret.delete key

/-- What a call makes of a map. Only a value that is there and not equal is updated. -/
def applied : Call → (String → Option Value) → String → Option Value
  | add key value, entries => Function.update entries key (some value)
  | update key value, entries =>
    match entries key with
    | some current =>
      if current == value then entries else Function.update entries key (some value)
    | none => entries
  | delete key, entries => Function.update entries key none

/-- The calls that report a change: one that adds does so always, others if they change the map. -/
def Reports : Call → (String → Option Value) → Prop
  | add _ _, _ => True
  | call, entries => call.applied entries ≠ entries

def NaNFree : Call → Prop
  | add _ value | update _ value => value.hasNaN = false
  | delete _ => True

end Call

/-- A run of calls takes one map to another one, with the reports of the calls on the way. -/
inductive Follows : (String → Option Value) → List Call → List Bool → (String → Option Value) →
    Prop where
  | nil (entries : String → Option Value) : Follows entries [] [] entries
  | cons {entries last : String → Option Value} {call : Call} {calls : List Call}
      {reported : Bool} {reports : List Bool} (hreported : reported = true ↔ call.Reports entries)
      (hrest : Follows (call.applied entries) calls reports last) :
      Follows entries (call :: calls) (reported :: reports) last

/-! ### Maps in documents -/

/-- The secrets of a root with these fields: its data, or none where there is no data. -/
structure Holds (fields secrets : Fields) : Prop where
  data : Fields.get? fields dataPath = some (.map secrets) ∨
    Fields.get? fields dataPath = none ∧ secrets = []
  ascending : Fields.Ascending secrets

variable {document : Document} {fields secrets : Fields} {key : String}

theorem holds_insert (fields : Fields) (hascending : Fields.Ascending secrets) :
    Holds (Fields.insert fields dataPath (.map secrets)) secrets :=
  ⟨.inl (Fields.get?_insert_self _ _ _), hascending⟩

theorem parsePath_dataPath (document : Document) :
    document.parsePath dataPath = .ok [.key dataPath] := by
  apply Document.parsePath_of_parse
  cases document.separator <;> decide +kernel

theorem lookup_dataPath (hroot : document.root = .map fields) :
    document.lookup dataPath = .ok (Fields.get? fields dataPath) := by
  rw [Document.lookup_of_parsePath (parsePath_dataPath document), hroot, Value.lookup_key]
  rfl

theorem entries_eq (hroot : document.root = .map fields) (h : Holds fields secrets) :
    entries document = secrets := by
  rw [entries, lookup_dataPath hroot]
  rcases h.data with hdata | ⟨hdata, rfl⟩ <;> rw [hdata]

theorem find?_eq (hroot : document.root = .map fields) (h : Holds fields secrets) :
    find? document = Fields.get? secrets := by
  funext key
  rw [find?, entries_eq hroot h]

/-! ### The ends of calls -/

theorem modify?_dataPath (fields : Fields) (f : Value → Option Value) :
    (Value.map fields).modify? f [.key dataPath] =
      (Fields.get? fields dataPath).bind fun data ↦ (f data).map fun new ↦
        .map (Fields.insert fields dataPath new) := by
  rw [Value.modify?_cons]
  simp only [Value.modify?_nil]
  rfl

/-- Adding an entry puts it among the secrets, whether there is data or not. -/
theorem add_run (hroot : document.root = .map fields) (h : Holds fields secrets) (key : String)
    (value : Value) :
    (add key value).run document = .ok true { document with
      root := .map (Fields.insert fields dataPath (.map (Fields.insert secrets key value))) } := by
  have hpath := parsePath_dataPath document
  have hfound : (Value.map fields).lookup [.key dataPath] = Fields.get? fields dataPath :=
    Value.lookup_key _ _
  rw [add, EStateM.run_bind, EStateM.run_get]
  simp only [lookup_dataPath hroot]
  rcases h.data with hdata | ⟨hdata, rfl⟩
  · simp only [hdata, Document.update_run, Document.changeAt_of_parsePath hpath,
      Document.updateChange, hroot, hfound, Document.updated, Except.map, Option.bind_some,
      modify?_dataPath, Option.map_some]
    rfl
  · simp only [hdata, Document.put_run, Document.changeAt_of_parsePath hpath,
      Document.putChange, hroot, hfound, Value.create?_cons, Value.create?_nil]
    rfl

theorem delete_run (hroot : document.root = .map fields) (h : Holds fields secrets)
    (key : String) :
    (delete key).run document =
      if Fields.contains secrets key then .ok true { document with
        root := .map (Fields.insert fields dataPath (.map (Fields.erase secrets key))) }
      else .ok false document := by
  rw [delete, Document.pop_run, Document.changeAt_of_parsePath (parsePath_dataPath document),
    Document.popChange, hroot, modify?_dataPath]
  rcases h.data with hdata | ⟨hdata, rfl⟩
  · rw [hdata, Option.bind_some, Document.popFrom, Value.asString, Option.bind_some,
      Value.removeStep?]
    split <;> rfl
  · rw [hdata]
    rfl

theorem update_run (hroot : document.root = .map fields) (h : Holds fields secrets) (key : String)
    (value : Value) :
    (update key value).run document =
      match Fields.get? secrets key with
      | some current =>
        if current == value then .ok false document else (add key value).run document
      | none => .ok false document := by
  rw [update, EStateM.run_bind, EStateM.run_get]
  simp only [find?_eq hroot h]
  cases Fields.get? secrets key with
  | none => rfl
  | some current =>
    simp only
    split <;> rfl

/-! ### Calls follow the map -/

theorem get?_insert_eq (secrets : Fields) (key : String) (value : Value) :
    Fields.get? (Fields.insert secrets key value) =
      Function.update (Fields.get? secrets) key (some value) := by
  funext other
  rw [Fields.get?_insert, Function.update_apply]

theorem get?_erase_eq (hascending : Fields.Ascending secrets) (key : String) :
    Fields.get? (Fields.erase secrets key) = Function.update (Fields.get? secrets) key none := by
  funext other
  rw [Function.update_apply]
  split
  · next hkey => rw [hkey, Fields.get?_erase_self hascending]
  · next hkey => rw [Fields.get?_erase_of_ne hkey]

/-- What a call comes to: it moves the map in one step and keeps the other entries of the root. -/
structure Steps (call : Call) (document : Document) (fields secrets : Fields) (reported : Bool)
    (changed left : Fields) : Prop where
  run : call.perform.run document = .ok reported { document with root := .map changed }
  holds : Holds changed left
  map : Fields.get? left = call.applied (Fields.get? secrets)
  reports : reported = true ↔ call.Reports (Fields.get? secrets)
  others : ∀ name, name ≠ dataPath → Fields.get? changed name = Fields.get? fields name

/-- A call that leaves a document as it was, for a map that it leaves as it was. -/
theorem Steps.of_same (hroot : document.root = .map fields) (h : Holds fields secrets) {call : Call}
    (hrun : call.perform.run document = .ok false document)
    (hsame : call.applied (Fields.get? secrets) = Fields.get? secrets)
    (hsilent : ¬call.Reports (Fields.get? secrets)) :
    Steps call document fields secrets false fields secrets where
  run := by rw [hrun, ← hroot]
  holds := h
  map := hsame.symm
  reports := iff_of_false Bool.false_ne_true hsilent
  others _ _ := rfl

/-- A call that puts other secrets into a document. -/
theorem Steps.of_put {call : Call} {left : Fields} (hascending : Fields.Ascending left)
    (hrun : call.perform.run document =
      .ok true { document with root := .map (Fields.insert fields dataPath (.map left)) })
    (hmap : Fields.get? left = call.applied (Fields.get? secrets))
    (hreports : call.Reports (Fields.get? secrets)) :
    Steps call document fields secrets true (Fields.insert fields dataPath (.map left)) left where
  run := hrun
  holds := holds_insert fields hascending
  map := hmap
  reports := iff_of_true rfl hreports
  others _ hname := Fields.get?_insert_of_ne hname _ _

/-- Every call takes one step. -/
theorem exists_steps (hroot : document.root = .map fields) (h : Holds fields secrets) {call : Call}
    (hcall : call.NaNFree) : ∃ reported changed left,
      Steps call document fields secrets reported changed left := by
  cases call with
  | add key value =>
    exact ⟨true, _, _, .of_put (Fields.ascending_insert h.ascending key value)
      (add_run hroot h key value) (get?_insert_eq secrets key value) trivial⟩
  | update key value =>
    have hrun := update_run hroot h key value
    cases hcurrent : Fields.get? secrets key with
    | none =>
      have hsame : (Call.update key value).applied (Fields.get? secrets) = Fields.get? secrets := by
        simp only [Call.applied, hcurrent]
      rw [hcurrent] at hrun
      exact ⟨false, fields, secrets, .of_same hroot h hrun hsame (not_not_intro hsame)⟩
    | some current =>
      rw [hcurrent] at hrun
      by_cases hequal : (current == value) = true
      · have hsame : (Call.update key value).applied (Fields.get? secrets) =
            Fields.get? secrets := by
          simp only [Call.applied, hcurrent, if_pos hequal]
        simp only [if_pos hequal] at hrun
        exact ⟨false, fields, secrets, .of_same hroot h hrun hsame (not_not_intro hsame)⟩
      · have hput : (Call.update key value).applied (Fields.get? secrets) =
            Function.update (Fields.get? secrets) key (some value) := by
          simp only [Call.applied, hcurrent, if_neg hequal]
        -- a value that equals itself differs from one that it is not equal to
        have hdiffers : (Call.update key value).Reports (Fields.get? secrets) := by
          intro hsame
          have hkey := congrFun (hput.symm.trans hsame) key
          rw [Function.update_self, hcurrent] at hkey
          cases hkey
          exact hequal (Value.beq_self hcall)
        simp only [if_neg hequal] at hrun
        exact ⟨true, _, _, .of_put (Fields.ascending_insert h.ascending key value)
          (hrun.trans (add_run hroot h key value))
          ((get?_insert_eq secrets key value).trans hput.symm) hdiffers⟩
  | delete key =>
    have hrun := delete_run hroot h key
    cases hcurrent : Fields.get? secrets key with
    | none =>
      have hsame : (Call.delete key).applied (Fields.get? secrets) = Fields.get? secrets := by
        rw [Call.applied, ← hcurrent, Function.update_eq_self]
      rw [Fields.contains, hcurrent] at hrun
      exact ⟨false, fields, secrets, .of_same hroot h hrun hsame (not_not_intro hsame)⟩
    | some current =>
      have hdiffers : (Call.delete key).Reports (Fields.get? secrets) := by
        intro hsame
        have hkey := congrFun hsame key
        rw [Call.applied, Function.update_self, hcurrent] at hkey
        contradiction
      rw [Fields.contains, hcurrent] at hrun
      exact ⟨true, _, _, .of_put (Fields.ascending_erase h.ascending key) hrun
        (get?_erase_eq h.ascending key) hdiffers⟩

/-- A run of calls follows the map. -/
theorem exists_run (hroot : document.root = .map fields) (h : Holds fields secrets)
    {calls : List Call} (hcalls : ∀ call ∈ calls, call.NaNFree) : ∃ reports changed left,
      (calls.mapM Call.perform).run document =
        .ok reports { document with root := .map changed } ∧
      Holds changed left ∧ Follows (Fields.get? secrets) calls reports (Fields.get? left) ∧
      ∀ name, name ≠ dataPath → Fields.get? changed name = Fields.get? fields name := by
  induction calls generalizing document fields secrets with
  | nil =>
    refine ⟨[], fields, secrets, ?_, h, .nil _, fun _ _ ↦ rfl⟩
    rw [← hroot]
    rfl
  | cons call calls ih =>
    obtain ⟨hcall, hrest⟩ := List.forall_mem_cons.mp hcalls
    obtain ⟨reported, changed, left, hstep⟩ := exists_steps hroot h hcall
    let middle : Document := { document with root := .map changed }
    have hmiddle : middle.root = .map changed := rfl
    obtain ⟨reports, last, final, hrun, hfinal, hfollows, hothers⟩ := ih hmiddle hstep.holds hrest
    refine ⟨reported :: reports, last, final, ?_, hfinal, ?_, fun name hname ↦ ?_⟩
    · have hlater : (calls.mapM Call.perform).run { document with root := .map changed } =
          .ok reports { document with root := .map last } := hrun
      rw [List.mapM_cons, EStateM.run_bind, hstep.run]
      simp only [EStateM.run_bind, hlater]
      rfl
    · exact .cons hstep.reports (hstep.map ▸ hfollows)
    · rw [hothers name hname, hstep.others name hname]

/-- Where the root is a map that holds a map as its data, or has no data, every run of calls
succeeds and follows the finite map of the secrets. The entries afterwards are those of the map in
the order of their keys, and all others of the root are as they were. -/
theorem calls_follow_map (hroot : document.root = .map fields) (hwell : document.root.WellFormed)
    (hdata : ∀ data, Fields.get? fields dataPath = some data → data.asMap.isSome = true)
    (calls : List Call) (hcalls : ∀ call ∈ calls, call.NaNFree) :
    ∃ reports after, (calls.mapM Call.perform).run document = .ok reports after ∧
      Follows (find? document) calls reports (find? after) ∧
      Fields.Ascending (entries after) ∧
      (∀ key value, (key, value) ∈ entries after ↔ find? after key = some value) ∧
      ∃ changed, after = { document with root := .map changed } ∧
        ∀ name, name ≠ dataPath → Fields.get? changed name = Fields.get? fields name := by
  obtain ⟨secrets, hholds⟩ : ∃ secrets, Holds fields secrets := by
    cases hfound : Fields.get? fields dataPath with
    | none => exact ⟨[], .inr ⟨hfound, rfl⟩, .nil⟩
    | some data =>
      have hmap := hdata data hfound
      cases data <;> try contradiction
      case map secrets =>
        rw [hroot] at hwell
        exact ⟨secrets, .inl hfound, (Value.WellFormed.get? hwell.2 hfound).1⟩
  obtain ⟨reports, changed, left, hrun, hleft, hfollows, hothers⟩ :=
    exists_run hroot hholds hcalls
  let after : Document := { document with root := .map changed }
  have hafter : after.root = .map changed := rfl
  refine ⟨reports, after, hrun, ?_, ?_, ?_, changed, rfl, hothers⟩
  · rwa [find?_eq hroot hholds, find?_eq hafter hleft]
  · rw [entries_eq hafter hleft]
    exact hleft.ascending
  · intro key value
    rw [entries_eq hafter hleft, find?_eq hafter hleft]
    exact ⟨Fields.get?_of_mem hleft.ascending, Fields.mem_of_get?⟩

/-- Calls with an empty key and one that looks like a path, on a document without data. -/
theorem calls_follow_map_of_kind :
    let document : Document := { root := .map [("kind", .string "Secret")], separator := .colon }
    let calls : List Call :=
      [.add "a:b[0]" (.int 1), .update "" .null, .update "a:b[0]" (.int 2), .delete "a:b[0]"]
    document.root.WellFormed ∧ (∀ call ∈ calls, call.NaNFree) ∧
      ∃ reports after, (calls.mapM Call.perform).run document = .ok reports after ∧
        Follows (find? document) calls reports (find? after) ∧
        after.root.field? "kind" = some (.string "Secret") := by
  intro document calls
  have hroot : document.root = .map [("kind", .string "Secret")] := rfl
  have hwell : document.root.WellFormed := by
    simp only [document, Value.WellFormed, Value.FieldsWellFormed]
    decide
  have hfree : ∀ call ∈ calls, call.NaNFree := by
    simp [calls, Call.NaNFree, Value.hasNaN]
  obtain ⟨reports, after, hrun, hfollows, -, -, changed, rfl, hothers⟩ :=
    calls_follow_map hroot hwell (by decide) calls hfree
  exact ⟨hwell, hfree, reports, _, hrun, hfollows, hothers "kind" (by decide)⟩

end ClusterRouter.Secret
