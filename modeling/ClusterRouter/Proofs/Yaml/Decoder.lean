import ClusterRouter.Proofs.Value.Equality
import ClusterRouter.Yaml.Decoder

/-!
# Decoded values are well-formed

Whatever text a value is decoded from, the keys of its maps ascend.
-/

namespace ClusterRouter

namespace Value

theorem wellFormed_of_not_container {value : Value} (h : value.isContainer = false) :
    value.WellFormed := by
  cases value <;> trivial

/-- A map is in order whatever entries it is made of. -/
theorem wellFormed_ofFields {entries : List (String × Value)}
    (h : ∀ entry ∈ entries, WellFormed entry.2) : WellFormed (ofFields entries) := by
  have hmerge (fields : Fields) (hfields : WellFormed (.map fields)) :
      WellFormed (.map (Fields.merge fields entries)) := by
    induction entries generalizing fields with
    | nil => exact hfields
    | cons entry entries ih =>
      obtain ⟨hentry, hentries⟩ := List.forall_mem_cons.mp h
      exact ih hentries _ ⟨Fields.ascending_insert hfields.1 _ _,
        fieldsWellFormed_insert hfields.2 _ hentry⟩
  exact hmerge [] ⟨List.Pairwise.nil, trivial⟩

end Value

namespace Yaml

variable {α β : Type}

/-- Whenever a reading succeeds, what it yields is as told. -/
def Yields (reading : Decoding α) (post : α → Prop) : Prop :=
  ∀ before found after, reading.run before = some (found, after) → post found

theorem yields_pure {a : α} {post : α → Prop} (h : post a) : Yields (pure a) post := by
  rintro before found after ⟨⟩
  exact h

theorem yields_failure {post : α → Prop} : Yields failure post := by
  intro before found after h
  contradiction

theorem yields_true (reading : Decoding α) : Yields reading fun _ ↦ True :=
  fun _ _ _ _ ↦ trivial

theorem Yields.bind {reading : Decoding α} {next : α → Decoding β} {first : α → Prop}
    {post : β → Prop} (h : Yields reading first) (hnext : ∀ a, first a → Yields (next a) post) :
    Yields (reading >>= next) post := by
  intro before found after hrun
  rw [StateT.run_bind] at hrun
  obtain ⟨⟨a, middle⟩, hfirst, hrest⟩ := Option.bind_eq_some_iff.mp hrun
  exact hnext a (h before a middle hfirst) middle found after hrest

theorem yields_liftM {option : Option α} {post : α → Prop} (h : ∀ a, option = some a → post a) :
    Yields (liftM option) post := by
  intro before found after hrun
  obtain ⟨a, ha, hpair⟩ := Option.bind_eq_some_iff.mp hrun
  obtain ⟨rfl, -⟩ := Prod.mk.inj (Option.some.inj hpair)
  exact h a ha

theorem yields_mapM {read : α → Decoding β} {post : β → Prop} (h : ∀ item, Yields (read item) post)
    (items : List α) : Yields (items.mapM read) fun found ↦ ∀ b ∈ found, post b := by
  induction items with
  | nil => exact yields_pure (by simp)
  | cons item items ih =>
    rw [List.mapM_cons]
    refine (h item).bind fun b hb ↦ ih.bind fun found hfound ↦ yields_pure ?_
    exact List.forall_mem_cons.mpr ⟨hb, hfound⟩

theorem isContainer_of_integerValue {n : Int} {value : Value}
    (h : Plain.integerValue? n = some value) : value.isContainer = false := by
  unfold Plain.integerValue? at h
  split at h
  · cases h
    rfl
  split at h <;> cases h
  rfl

theorem isContainer_of_plain {text : String} {value : Value} (h : Plain.value? text = some value) :
    value.isContainer = false := by
  unfold Plain.value? at h
  split at h
  case h_3 => exact isContainer_of_integerValue h
  all_goals
    cases h
    rfl

/-- A scalar is no collection. -/
theorem isContainer_of_scalar {text : String} {style : ScalarStyle} {tag : Option Tag}
    {value : Value} (h : scalarValue? text style tag = some value) : value.isContainer = false := by
  unfold scalarValue? at h
  split at h
  case h_1 | h_2 =>
    split at h
    · exact isContainer_of_plain h
    · cases h
      rfl
  case h_3 =>
    split at h
    · obtain ⟨b, -, rfl⟩ := Option.map_eq_some_iff.mp h
      rfl
    split at h
    · obtain ⟨n, -, hn⟩ := Option.bind_eq_some_iff.mp h
      exact isContainer_of_integerValue hn
    split at h
    · obtain ⟨x, -, rfl⟩ := Option.map_eq_some_iff.mp h
      rfl
    split at h
    · split at h <;> cases h
      rfl
    split at h <;> cases h
    rfl

theorem yields_entry {read : Node → Decoding Value}
    (h : ∀ node, Yields (read node) Value.WellFormed) (entry : Node × Node) :
    Yields (do
      match ← read entry.1 with
      | .string key => pure (key, ← read entry.2)
      | _ => failure) fun found ↦ found.2.WellFormed := by
  refine (h entry.1).bind fun key _ ↦ ?_
  split
  · exact (h entry.2).bind fun value hvalue ↦ yields_pure hvalue
  · exact yields_failure

theorem yields_value (stream : Stream) (fuel depth : Nat) (node : Node) :
    Yields (stream.value fuel depth node) Value.WellFormed := by
  induction fuel generalizing depth node with
  | zero => exact yields_failure
  | succ fuel ih =>
    cases node with
    | «alias» anchor => exact (yields_true _).bind fun found _ ↦ ih _ found
    | scalar text style properties =>
      exact yields_liftM fun value hvalue ↦
        Value.wellFormed_of_not_container (isContainer_of_scalar hvalue)
    | sequence items properties =>
      cases depth with
      | zero => exact yields_failure
      | succ depth =>
        unfold Stream.value
        split
        · exact yields_failure
        · exact (yields_mapM (ih depth) items).bind fun found hfound ↦
            yields_pure (Value.itemsWellFormed_iff.mpr hfound)
    | mapping entries properties =>
      cases depth with
      | zero => exact yields_failure
      | succ depth =>
        unfold Stream.value
        split
        · exact yields_failure
        · exact (yields_mapM (yields_entry (ih depth)) entries).bind fun found hfound ↦
            yields_pure (Value.wellFormed_ofFields hfound)

theorem wellFormed_of_decode {text : String} {value : Value} (h : decode? text = some value) :
    value.WellFormed := by
  obtain ⟨stream, -, hvalue⟩ := Option.bind_eq_some_iff.mp h
  cases hroot : stream.root with
  | none =>
    rw [hroot] at hvalue
    cases hvalue
    trivial
  | some root =>
    rw [hroot] at hvalue
    obtain ⟨⟨found, after⟩, hrun, hfound⟩ := Option.bind_eq_some_iff.mp hvalue
    cases hfound
    exact yields_value stream _ _ root 0 _ after hrun

end Yaml

end ClusterRouter
