import ClusterRouter.Proofs.Document.Navigation
import ClusterRouter.Proofs.Manifest.Bundle
import Mathlib.Data.List.Induction

/-!
# Bundles of items

Of a row of items a bundle holds the last one of each kind and nothing else. Only the items of one
kind compete with one another: what stands between them, in whatever order, and items of no managed
kind leave no trace, and the bundle of two rows is that of the first overwritten by that of the
second. Bundles that are the same here are identical, so this holds of documents with numbers that
equal nothing, too.
-/

namespace ClusterRouter

theorem Kind.ofName?_eq_some_iff {text : String} {kind : Kind} :
    Kind.ofName? text = some kind ↔ text = kind.name := by
  constructor
  · intro h
    rw [ofName?] at h
    have hname := List.find?_some h
    exact (of_decide_eq_true hname).symm
  · rintro rfl
    cases kind <;> decide

namespace Manifest

variable {kind : Kind} {item : Value} {name : String}

/-- The item says at its top level that it is of the kind. -/
def States (kind : Kind) (item : Value) : Prop := item.field? "kind" = some (.string kind.name)

theorem kindOf?_eq_some_iff : kindOf? item = some kind ↔ States kind item := by
  rw [kindOf?, Option.bind_eq_some_iff, States]
  constructor
  · rintro ⟨text, htext, hkind⟩
    obtain ⟨value, hvalue, hstring⟩ := Option.bind_eq_some_iff.mp htext
    cases value <;> try contradiction
    cases hstring
    rw [hvalue, Kind.ofName?_eq_some_iff.mp hkind]
  · intro h
    exact ⟨kind.name, by rw [h]; rfl, Kind.ofName?_eq_some_iff.mpr rfl⟩

instance (kind : Kind) : DecidablePred (States kind) := fun _ ↦
  decidable_of_iff _ kindOf?_eq_some_iff

/-- An item that is no map states no kind. -/
theorem not_states_of_asMap (h : item.asMap = none) (kind : Kind) : ¬States kind item := by
  rw [States, Value.field?, h]
  exact Option.some_ne_none _ ∘ Eq.symm

/-- The name is the text that the item has as the name in its metadata, or empty without one. -/
def Named (item : Value) (name : String) : Prop :=
  item.lookup [.key "metadata", .key "name"] = some (.string name) ∨
    name = "" ∧ ∀ text, item.lookup [.key "metadata", .key "name"] ≠ some (.string text)

theorem named_iff : Named item name ↔ name = nameOf item := by
  have hlookup : item.lookup [.key "metadata", .key "name"] =
      (item.field? "metadata").bind (Value.field? · "name") := by
    simp only [← Value.lookup_key]
    exact Value.lookup_append item [.key "metadata"] [.key "name"]
  rw [Named, nameOf, hlookup]
  cases (item.field? "metadata").bind (Value.field? · "name") with
  | none => simp
  | some found => cases found <;> simp [Value.asString, eq_comm]

/-- The manifest that an item of a kind makes: its document is the item itself. -/
structure Shows (kind : Kind) (item : Value) (manifest : Manifest) : Prop where
  kind : manifest.kind = kind
  named : Named item manifest.name
  document : manifest.document = { root := item }

theorem shows_iff {manifest : Manifest} :
    manifest.Shows kind item ↔ manifest = ⟨kind, nameOf item, { root := item }⟩ := by
  constructor
  · rintro ⟨rfl, hname, hdocument⟩
    rw [← named_iff.mp hname, ← hdocument]
  · rintro rfl
    exact ⟨rfl, named_iff.mpr rfl, rfl⟩

theorem ofDocument?_ofRoot (item : Value) :
    ofDocument? (.ofRoot item) =
      (kindOf? item).map fun kind ↦ ⟨kind, nameOf item, { root := item }⟩ := by
  cases item <;> rfl

end Manifest

namespace Bundle

open Manifest (States)

variable {bundle other : Bundle} {kind : Kind} {item : Value} {items others : List Value}

/-- Ordered bundles with the same manifests under all kinds are the same. -/
theorem Ordered.ext (h : bundle.Ordered) (hother : other.Ordered)
    (hsame : ∀ kind, bundle.get? kind = other.get? kind) : bundle = other := by
  have hmanifests : bundle.manifests = other.manifests := by
    rw [h.manifests_eq, hother.manifests_eq, funext hsame]
  cases bundle
  cases other
  exact congrArg mk hmanifests

/-- The bundle with what another one holds in place of what it holds under the same kinds. -/
def overwrite (bundle other : Bundle) : Bundle :=
  ⟨Kind.all.filterMap fun kind ↦ (other.get? kind).or (bundle.get? kind)⟩

theorem kind_of_overwrite_choice {manifest : Manifest}
    (h : (other.get? kind).or (bundle.get? kind) = some manifest) : manifest.kind = kind := by
  rcases Option.or_eq_some_iff.mp h with hother | ⟨-, hbundle⟩
  · exact kind_of_get? hother
  · exact kind_of_get? hbundle

theorem ordered_overwrite (bundle other : Bundle) : (bundle.overwrite other).Ordered :=
  map_kind_filterMap_sublist (fun _ _ ↦ kind_of_overwrite_choice) Kind.all

theorem get?_overwrite (bundle other : Bundle) (kind : Kind) :
    (bundle.overwrite other).get? kind = (other.get? kind).or (bundle.get? kind) :=
  get?_filterMap (fun _ _ ↦ kind_of_overwrite_choice) kind

/-! ### The last item of each kind -/

/-- The last of the items that state the kind. -/
def lastOf (kind : Kind) (items : List Value) : Option Value :=
  (items.filter fun item ↦ States kind item).getLast?

theorem lastOf_append (kind : Kind) (items others : List Value) :
    lastOf kind (items ++ others) = (lastOf kind others).or (lastOf kind items) := by
  rw [lastOf, List.filter_append, List.getLast?_append]
  rfl

theorem lastOf_singleton (kind : Kind) (item : Value) :
    lastOf kind [item] = if States kind item then some item else none := by
  by_cases h : States kind item <;> simp [lastOf, h]

theorem states_of_lastOf (h : lastOf kind items = some item) : States kind item := by
  simpa using List.of_mem_filter (List.mem_of_getLast? h)

theorem ofItems_concat (items : List Value) (item : Value) :
    ofItems (items ++ [item]) =
      ((Manifest.kindOf? item).map fun kind ↦
        (ofItems items).insert ⟨kind, Manifest.nameOf item, { root := item }⟩).getD
          (ofItems items) := by
  rw [ofItems, List.foldl_concat, Manifest.ofDocument?_ofRoot, Option.map_map]
  rfl

/-- One more item takes the place of its kind, if it states one. -/
theorem get?_ofItems_concat (items : List Value) (item : Value) (kind : Kind) :
    (ofItems (items ++ [item])).get? kind =
      if States kind item then some ⟨kind, Manifest.nameOf item, { root := item }⟩
      else (ofItems items).get? kind := by
  rw [ofItems_concat]
  simp only [← Manifest.kindOf?_eq_some_iff]
  cases hkind : Manifest.kindOf? item with
  | none => simp
  | some stated =>
    rw [Option.map_some, Option.getD_some, get?_insert]
    by_cases hsame : kind = stated
    · simp [hsame]
    · simp [hsame, Ne.symm hsame]

/-- The invariant of gathering items: under each kind stands the last item of it so far. -/
theorem get?_ofItems (items : List Value) (kind : Kind) :
    (ofItems items).get? kind =
      (lastOf kind items).map fun item ↦ ⟨kind, Manifest.nameOf item, { root := item }⟩ := by
  induction items using List.reverseRecOn with
  | nil => rfl
  | append_singleton items item ih =>
    rw [get?_ofItems_concat, lastOf_append, lastOf_singleton, ih]
    by_cases h : States kind item <;> simp [h]

/-- Only the last item of each kind matters. -/
theorem ofItems_eq_of_lastOf (h : ∀ kind, lastOf kind others = lastOf kind items) :
    ofItems others = ofItems items :=
  (ordered_ofItems others).ext (ordered_ofItems items) fun kind ↦ by
    rw [get?_ofItems, get?_ofItems, h]

theorem ofItems_eq_of_filter
    (h : ∀ kind, (others.filter fun item ↦ States kind item) =
      items.filter fun item ↦ States kind item) : ofItems others = ofItems items :=
  ofItems_eq_of_lastOf fun kind ↦ by rw [lastOf, lastOf, h]

theorem ofItems_append (items others : List Value) :
    ofItems (items ++ others) = (ofItems items).overwrite (ofItems others) :=
  (ordered_ofItems _).ext (ordered_overwrite _ _) fun kind ↦ by
    rw [get?_overwrite, get?_ofItems, get?_ofItems, get?_ofItems, lastOf_append, Option.map_or]

/-- What a bundle has to do with the items that it was gathered from. -/
structure Gathers (items : List Value) (bundle : Bundle) : Prop where
  /-- Under each kind stands the last item that states it, and nothing without such an item. -/
  held (kind : Kind) (manifest : Manifest) : bundle.get? kind = some manifest ↔
    ∃ item, lastOf kind items = some item ∧ manifest.Shows kind item
  /-- Every manifest stands under its own kind, which its document states. -/
  stated : ∀ manifest ∈ bundle.manifests, bundle.get? manifest.kind = some manifest ∧
    States manifest.kind manifest.document.root
  /-- The manifests stand in the order of the kinds, and there are no others. -/
  inOrder : bundle.manifests = Kind.all.filterMap bundle.get?
  /-- Further items overwrite the bundle with their own. -/
  further (others : List Value) : ofItems (items ++ others) = bundle.overwrite (ofItems others)
  /-- Another order that leaves the items of each kind in their order makes the same bundle. -/
  reordered (others : List Value) :
    (∀ kind, (others.filter fun item ↦ States kind item) =
      items.filter fun item ↦ States kind item) → ofItems others = bundle
  /-- An item that is no map or states none of the kinds makes no difference anywhere. -/
  ignored (before after : List Value) (item : Value) : items = before ++ after →
    (item.asMap = none ∨ ∀ kind, ¬States kind item) → ofItems (before ++ item :: after) = bundle

/-- A bundle of items is determined by the last item of each kind. -/
theorem ofItems_gathers (items : List Value) : Gathers items (ofItems items) where
  held kind manifest := by
    rw [get?_ofItems, Option.map_eq_some_iff]
    simp only [Manifest.shows_iff, eq_comm]
  stated manifest hmanifest := by
    have hheld : (ofItems items).get? manifest.kind = some manifest :=
      (ordered_ofItems items).get?_eq_some_iff.mpr ⟨hmanifest, rfl⟩
    refine ⟨hheld, ?_⟩
    rw [get?_ofItems] at hheld
    obtain ⟨item, hlast, hitem⟩ := Option.map_eq_some_iff.mp hheld
    rw [← hitem]
    exact states_of_lastOf hlast
  inOrder := (ordered_ofItems items).manifests_eq
  further others := ofItems_append items others
  reordered _ h := ofItems_eq_of_filter h
  ignored before after item hitems hitem := by
    have hnone (kind : Kind) : ¬States kind item :=
      hitem.elim (Manifest.not_states_of_asMap · kind) (· kind)
    subst hitems
    apply ofItems_eq_of_filter
    intro kind
    rw [List.filter_append, List.filter_append, List.filter_cons_of_neg (by simp [hnone kind])]

/-- Of two services with something else between them the second one stays. -/
example : (ofItems [.map [("kind", .string "Service"), ("spec", .null)], .null,
    .map [("kind", .string "Route")], .map [("kind", .string "Service")]]).manifests.map
      (fun manifest ↦ manifest.document.root.field? "spec") = [none] := by rfl

end Bundle

end ClusterRouter
