import ClusterRouter.Cluster.Model
import ClusterRouter.Proofs.Storage.FileSystem

/-!
# Faithful clusters

A party is faithful when it answers as a cluster that keeps objects would, whatever its own state
is like. Only what a command comes to is laid down: the words of its outputs are its own, but for
those that tell why it failed.
-/

namespace ClusterRouter

namespace Text

theorem occursIn_iff {wanted text : List Char} :
    occursIn wanted text = true ↔ wanted <:+: text := by
  induction text with
  | nil => simp [occursIn]
  | cons c rest ih =>
    rw [occursIn, Bool.or_eq_true, ih, List.isPrefixOf_iff_prefix, List.infix_cons_iff]

theorem contains_iff_toList {text wanted : String} :
    contains text wanted = true ↔ wanted.toList <:+: text.toList :=
  occursIn_iff

/-- A text is found in the middle of another one. -/
theorem contains_append (before wanted after : String) :
    contains (before ++ wanted ++ after) wanted = true := by
  rw [contains_iff_toList, String.toList_append, String.toList_append]
  exact List.infix_append before.toList wanted.toList after.toList

/-- Where a text is found, its beginning is. -/
theorem contains_of_contains_append {text wanted after : String}
    (h : contains text (wanted ++ after) = true) : contains text wanted = true := by
  rw [contains_iff_toList, String.toList_append] at h
  exact contains_iff_toList.mpr ((List.prefix_append wanted.toList after.toList).isInfix.trans h)

end Text

theorem CommandResult.failedWith_of_append {result : CommandResult} {words more : String}
    (h : result.failedWith (words ++ more) = true) : result.failedWith words = true := by
  obtain ⟨hfailed, hwords⟩ := Bool.and_eq_true_iff.mp h
  exact Bool.and_eq_true_iff.mpr ⟨hfailed, Text.contains_of_contains_append hwords⟩

variable {σ : Type}

/-- A command answers the request, and what it comes to is as told. -/
def Answers (respond : σ → Request → Reply × σ) (view : σ → Cluster) (s : σ) (request : Request)
    (post : CommandResult → Cluster → Prop) : Prop :=
  ∃ result after, respond s request = (.ok result, after) ∧ post result (view after)

/-- Whatever its state, the party answers as the cluster would that `view` sees in the state. -/
structure Faithful (respond : σ → Request → Reply × σ) (view : σ → Cluster) : Prop where
  render : ∀ s name options certificate,
    Answers respond view s (.render name options certificate) fun result after ↦
      after = view s ∧ result.succeeded = true ∧ result.decodeError = none ∧
        (result.results.field? "items").bind Value.asList = some (view s).items
  getFound : ∀ s kind name object, (view s).live kind = some object →
    Manifest.nameOf object = name →
    Answers respond view s (.get kind name none) fun result after ↦
      after = view s ∧ result.succeeded = true ∧
        result.documents = CommandResult.documents { results := object }
  getMissing : ∀ s kind name,
    (∀ object, (view s).live kind = some object → Manifest.nameOf object ≠ name) →
    Answers respond view s (.get kind name none) fun result after ↦
      after = view s ∧ result.succeeded = false
  createFree : ∀ s file object kind, Cluster.objectOf? file = some object →
    Manifest.kindOf? object = some kind → (view s).live kind = none →
    Answers respond view s (.create file) fun result after ↦
      after = (view s).put kind (some object) ∧ result.succeeded = true
  createTaken : ∀ s file object kind, Cluster.objectOf? file = some object →
    Manifest.kindOf? object = some kind → (view s).live kind ≠ none →
    Answers respond view s (.create file) fun result after ↦
      after = view s ∧ result.failedWith "already exists" = true
  deleteLive : ∀ s kind name, (view s).live kind ≠ none →
    Answers respond view s (.delete kind name none) fun result after ↦
      after = (view s).put kind none ∧ result.succeeded = true
  deleteMissing : ∀ s kind name, (view s).live kind = none →
    Answers respond view s (.delete kind name none) fun result after ↦
      after = view s ∧ result.failedWith "not found" = true

/-- What a faithful party owes to those who only look and delete. -/
structure Removing (respond : σ → Request → Reply × σ) (view : σ → Cluster) : Prop where
  getFound : ∀ s kind name object, (view s).live kind = some object →
    Manifest.nameOf object = name →
    Answers respond view s (.get kind name none) fun result after ↦
      after = view s ∧ result.succeeded = true ∧
        result.documents = CommandResult.documents { results := object }
  getMissing : ∀ s kind name,
    (∀ object, (view s).live kind = some object → Manifest.nameOf object ≠ name) →
    Answers respond view s (.get kind name none) fun result after ↦
      after = view s ∧ result.succeeded = false
  deleteLive : ∀ s kind name, (view s).live kind ≠ none →
    Answers respond view s (.delete kind name none) fun result after ↦
      after = (view s).put kind none ∧ result.succeeded = true
  deleteMissing : ∀ s kind name, (view s).live kind = none →
    Answers respond view s (.delete kind name none) fun result after ↦
      after = view s ∧ result.failedWith "not found" = true

theorem Faithful.removing {respond : σ → Request → Reply × σ} {view : σ → Cluster}
    (h : Faithful respond view) : Removing respond view :=
  ⟨h.getFound, h.getMissing, h.deleteLive, h.deleteMissing⟩

namespace Cluster

theorem alreadyExists_contains (kind : Kind) (name : String) :
    Text.contains (alreadyExists kind name) "already exists" = true := by
  have h := Text.contains_append (kind.commandName ++ " \"" ++ name ++ "\" ") "already exists" "\n"
  rwa [String.append_assoc, String.append_assoc] at h

theorem notFound_contains (kind : Kind) (name : String) :
    Text.contains (notFound kind name ++ "\n") "not found" = true := by
  have h := Text.contains_append (kind.commandName ++ " \"" ++ name ++ "\" ") "not found" "\n"
  rw [String.append_assoc, String.append_assoc] at h
  rwa [notFound, String.append_assoc]

/-- The cluster that keeps objects is faithful. -/
theorem faithful_respond : Faithful Cluster.respond id where
  render cluster name options certificate := ⟨_, _, rfl, rfl, rfl, rfl, rfl⟩
  getFound cluster kind name object hlive hname := by
    refine ⟨_, _, rfl, rfl, ?_⟩
    change cluster.live kind = some object at hlive
    simp only [get, hlive, if_pos hname]
    exact ⟨rfl, rfl⟩
  getMissing cluster kind name hmissing := by
    refine ⟨_, _, rfl, rfl, ?_⟩
    cases hlive : cluster.live kind with
    | none =>
      simp only [get, hlive]
      rfl
    | some object =>
      simp only [get, hlive, if_neg (hmissing object hlive)]
      rfl
  createFree cluster file object kind hobject hkind hfree := by
    refine ⟨_, _, rfl, ?_⟩
    change cluster.live kind = none at hfree
    simp only [hobject, hkind, Option.bind_some, Option.map_some, createObject, hfree]
    exact ⟨rfl, rfl⟩
  createTaken cluster file object kind hobject hkind htaken := by
    refine ⟨_, _, rfl, ?_⟩
    obtain ⟨old, hold⟩ := Option.ne_none_iff_exists'.mp htaken
    change cluster.live kind = some old at hold
    simp only [hobject, hkind, Option.bind_some, Option.map_some, createObject, hold]
    exact ⟨rfl, alreadyExists_contains kind _⟩
  deleteLive cluster kind name hlive := by
    refine ⟨_, _, rfl, ?_⟩
    obtain ⟨old, hold⟩ := Option.ne_none_iff_exists'.mp hlive
    change cluster.live kind = some old at hold
    simp only [hold]
    exact ⟨rfl, rfl⟩
  deleteMissing cluster kind name hnone := by
    refine ⟨_, _, rfl, ?_⟩
    change cluster.live kind = none at hnone
    simp only [hnone]
    exact ⟨rfl, notFound_contains kind name⟩

/-- A file of a document holds what the document is decoded to. -/
theorem objectOf?_ofDocument (place : ArtifactPlace) (beginning : String) (document : Document) :
    objectOf? (place.ofDocument beginning document) = Yaml.decode? (Yaml.render document.root) := by
  calc objectOf? (place.ofDocument beginning document)
      = (String.fromUTF8? (Yaml.render document.root).toUTF8).bind Yaml.decode? := rfl
    _ = Yaml.decode? (Yaml.render document.root) := by
      rw [fromUTF8?_toUTF8, Option.bind_some]

end Cluster

end ClusterRouter
