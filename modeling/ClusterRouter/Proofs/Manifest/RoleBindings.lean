import ClusterRouter.Proofs.Manifest.Entries
import ClusterRouter.Proofs.Manifest.Membership

/-!
# Role bindings as sets

Subjects, groups and users are three lists without equal items. Every call that adds or removes
succeeds and changes its own list as a set is changed: what it names is in it afterwards, or is not,
and all other items stay in their order. So an item is found exactly if the last call about an equal
one added it, and the lists and the rest of the document leave each other alone.
-/

namespace ClusterRouter.RoleBinding

open Document (Distinct ensured)

/-! ### Lists of documents -/

/-- What may be found where a list belongs: nothing, null, or a list without equal items. -/
def Listed (found : Option Value) : Prop :=
  found = none ∨ found = some .null ∨ ∃ items, found = some (.list items) ∧ Distinct items

/-- The root is a map, and no two items of one of its lists are equal. -/
structure Tidy (document : Document) : Prop where
  isMap : document.root.asMap.isSome = true
  listed : ∀ listing : Listing, Listed (document.root.field? listing.path)

/-- The items that are found, none where no list is. -/
def itemsOf (found : Option Value) : List Value := (found.bind Value.asList).getD []

theorem distinct_itemsOf {found : Option Value} (h : Listed found) : Distinct (itemsOf found) := by
  rcases h with rfl | rfl | ⟨items, rfl, hdistinct⟩
  · exact List.Pairwise.nil
  · exact List.Pairwise.nil
  · exact hdistinct

theorem appendReaction_of_listed {found : Option Value} (h : Listed found) (item : Value) :
    Document.appendReaction item found = .ok (some (.list (itemsOf found ++ [item]))) := by
  rcases h with rfl | rfl | ⟨items, rfl, -⟩ <;> rfl

theorem popReaction_of_listed {found : Option Value} (h : Listed found) (wanted : Value) :
    Document.popReaction wanted found = .ok
      (if (itemsOf found).contains wanted then some (.list (without (itemsOf found) wanted))
        else none) := by
  rcases h with rfl | rfl | ⟨items, rfl, hdistinct⟩
  · rfl
  · rfl
  have hitems : itemsOf (some (.list items)) = items := rfl
  rw [Document.popReaction, Option.bind_some, Document.popFrom, hitems,
    ← eraseP_eq_without hdistinct, List.eraseP_eq_eraseIdx, positionOf?]
  have hfound : items.contains wanted = (items.findIdx? (· == wanted)).isSome := by
    rw [List.findIdx?_isSome]
    apply Bool.eq_iff_iff.mpr
    rw [Value.contains_iff, List.any_eq_true]
  rw [hfound]
  cases items.findIdx? (· == wanted) <;> rfl

section

variable {document : Document} {fields : Fields} {call : Call}

theorem parsePath_listing (document : Document) (listing : Listing) :
    document.parsePath listing.path = .ok [.key listing.path] := by
  apply Document.parsePath_of_parse
  cases listing <;> cases document.separator <;> decide +kernel

theorem items_of_root (hroot : document.root = .map fields) (listing : Listing) :
    listing.items document = itemsOf (Fields.get? fields listing.path) := by
  rw [Listing.items_eq, listAt_of_parsePath (parsePath_listing document listing), hroot,
    Value.lookup_key]
  rfl

/-- What becomes of the root when the list of a call is changed. -/
def rootAfter (fields : Fields) (call : Call) (items : List Value) : Value :=
  .map (Fields.insert fields call.listing.path (.list (call.change items)))

/-- A call reports whether it finds its item otherwise than it is to be, and then changes its
list. -/
theorem perform_run (hroot : document.root = .map fields)
    (hlisted : Listed (Fields.get? fields call.listing.path)) :
    call.perform.run document =
      if (call.listing.items document).contains call.item = call.adds then .ok false document
      else .ok true { document with
        root := rootAfter fields call (call.listing.items document) } := by
  have hpath := parsePath_listing document call.listing
  have hitems := items_of_root hroot call.listing
  rw [perform_eq, rootAfter, Call.change]
  cases call.adds with
  | true =>
    rw [if_pos rfl, if_pos rfl, addTo, EStateM.run_bind, EStateM.run_get]
    simp only [← Listing.items_eq]
    split
    · rfl
    · next hmissing =>
      rw [Document.append_run, Document.changeAt_of_parsePath hpath, Document.appendChange_eq, hroot,
        Document.Reaction.change_key, appendReaction_of_listed hlisted, ensured, if_neg hmissing,
        hitems]
      rfl
  | false =>
    rw [if_neg Bool.false_ne_true, if_neg Bool.false_ne_true, Document.pop_run,
      Document.changeAt_of_parsePath hpath, Document.popChange_eq, hroot,
      Document.Reaction.change_key, popReaction_of_listed hlisted, hitems]
    cases (itemsOf (Fields.get? fields call.listing.path)).contains call.item <;> rfl

end

/-! ### Runs of calls -/

/-- An item is in one of the lists now and was not before, or the other way round. -/
def MembersDiffer (document after : Document) : Prop :=
  ∃ (listing : Listing) (value : Value),
    (listing.items after).contains value ≠ (listing.items document).contains value

/-- What a call comes to: it changes its own list as a set is changed, and nothing else. -/
structure Steps (call : Call) (document : Document) (reported : Bool) (after : Document) :
    Prop where
  run : call.perform.run document = .ok reported after
  tidy : Tidy after
  reports : reported = true ↔ MembersDiffer document after
  items : ∀ listing : Listing, listing.items after =
    if call.listing = listing then call.change (listing.items document)
    else listing.items document
  state : after = { document with root := after.root }
  others : ∀ name, name ≠ call.listing.path → after.root.field? name = document.root.field? name

section

variable {document : Document} {call : Call}

/-- A call that finds its item as it is to be. -/
theorem Steps.of_same (h : Tidy document)
    (hrun : call.perform.run document = .ok false document)
    (hsame : (call.listing.items document).contains call.item = call.adds) :
    Steps call document false document where
  run := hrun
  tidy := h
  reports := by
    refine iff_of_false Bool.false_ne_true ?_
    rintro ⟨listing, value, hdiffers⟩
    exact hdiffers rfl
  items listing := by
    split
    · next hlisting => rw [← hlisting, change_eq_self hsame]
    · rfl
  state := rfl
  others _ _ := rfl

/-- A call that changes its list. -/
theorem Steps.of_changed {fields : Fields} (hroot : document.root = .map fields) (h : Tidy document)
    (hcall : call.item.hasNaN = false)
    (hrun : call.perform.run document = .ok true { document with
      root := rootAfter fields call (call.listing.items document) })
    (hdiffers : (call.listing.items document).contains call.item ≠ call.adds) :
    Steps call document true { document with
      root := rootAfter fields call (call.listing.items document) } := by
  let after : Document := { document with
    root := rootAfter fields call (call.listing.items document) }
  have hlisted (listing : Listing) : Listed (Fields.get? fields listing.path) := by
    have hfound := h.listed listing
    rwa [hroot] at hfound
  have hitems (listing : Listing) : listing.items after =
      if call.listing = listing then call.change (listing.items document)
      else listing.items document := by
    have hafter : after.root = rootAfter fields call (call.listing.items document) := rfl
    rw [items_of_root hafter, Fields.get?_insert]
    split
    · next hpath =>
      cases Listing.path_injective hpath
      rw [if_pos rfl]
      rfl
    · next hpath =>
      rw [if_neg fun hlisting ↦ hpath (congrArg Listing.path hlisting.symm), items_of_root hroot]
  refine ⟨hrun, ⟨rfl, fun listing ↦ ?_⟩, ?_, hitems, rfl, fun name hname ↦ ?_⟩
  · change Listed (Fields.get? (Fields.insert fields call.listing.path _) listing.path)
    rw [Fields.get?_insert]
    split
    · refine .inr (.inr ⟨_, rfl, distinct_change ?_ call⟩)
      rw [items_of_root hroot]
      exact distinct_itemsOf (hlisted call.listing)
    · exact hlisted listing
  · refine iff_of_true rfl ⟨call.listing, call.item, ?_⟩
    rw [hitems, if_pos rfl, contains_change hcall, if_pos (Value.beq_self hcall)]
    exact hdiffers.symm
  · rw [hroot]
    exact Fields.get?_insert_of_ne hname _ _

/-- Every call takes one step. -/
theorem exists_steps (h : Tidy document) (hcall : call.item.hasNaN = false) :
    ∃ reported after, Steps call document reported after := by
  obtain ⟨fields, hroot⟩ : ∃ fields, document.root = .map fields := by
    have hmap := h.isMap
    cases hroot : document.root <;> rw [hroot] at hmap <;> first | contradiction | exact ⟨_, rfl⟩
  have hlisted := h.listed call.listing
  rw [hroot] at hlisted
  have hrun := perform_run hroot hlisted
  by_cases hsame : (call.listing.items document).contains call.item = call.adds
  · rw [if_pos hsame] at hrun
    exact ⟨false, document, .of_same h hrun hsame⟩
  · rw [if_neg hsame] at hrun
    exact ⟨true, _, .of_changed hroot h hcall hrun hsame⟩

end

/-- A run of calls takes one document to another, with the reports of the calls on the way. -/
inductive Follows : Document → List Call → List Bool → Document → Prop where
  | nil (document : Document) : Follows document [] [] document
  | cons {document middle after : Document} {call : Call} {calls : List Call} {reported : Bool}
      {reports : List Bool} (hstep : Steps call document reported middle)
      (hrest : Follows middle calls reports after) :
      Follows document (call :: calls) (reported :: reports) after

theorem exists_follows {document : Document} (h : Tidy document) {calls : List Call}
    (hcalls : ∀ call ∈ calls, call.item.hasNaN = false) :
    ∃ reports after, (calls.mapM Call.perform).run document = .ok reports after ∧
      Follows document calls reports after := by
  induction calls generalizing document with
  | nil => exact ⟨[], document, rfl, .nil document⟩
  | cons call calls ih =>
    obtain ⟨hcall, hrest⟩ := List.forall_mem_cons.mp hcalls
    obtain ⟨reported, middle, hstep⟩ := exists_steps h hcall
    obtain ⟨reports, after, hrun, hfollows⟩ := ih hstep.tidy hrest
    refine ⟨reported :: reports, after, ?_, .cons hstep hfollows⟩
    rw [List.mapM_cons, EStateM.run_bind, hstep.run]
    simp only [EStateM.run_bind, hrun]
    rfl

namespace Follows

variable {document after : Document} {calls : List Call} {reports : List Bool}

theorem tidy (h : Follows document calls reports after) (hdocument : Tidy document) :
    Tidy after := by
  induction h with
  | nil => exact hdocument
  | cons hstep _ ih => exact ih hstep.tidy

/-- Each list follows the calls for it, whatever the others are. -/
theorem items (h : Follows document calls reports after) (listing : Listing) :
    listing.items after = listing.itemsAfter calls (listing.items document) := by
  induction h with
  | nil => rfl
  | cons hstep _ ih => rw [ih, hstep.items, itemsAfter_cons]

theorem state (h : Follows document calls reports after) :
    after = { document with root := after.root } := by
  induction h with
  | nil => rfl
  | cons hstep _ ih =>
    rw [hstep.state] at ih
    exact ih

theorem others (h : Follows document calls reports after) {name : String}
    (hname : ∀ call ∈ calls, name ≠ call.listing.path) :
    after.root.field? name = document.root.field? name := by
  induction h with
  | nil => rfl
  | cons hstep _ ih =>
    obtain ⟨hcall, hrest⟩ := List.forall_mem_cons.mp hname
    rw [ih hrest, hstep.others name hcall]

end Follows

/-- The lists of a document after a run of calls are sets that the calls have changed. -/
structure ChangedAsSets (document : Document) (calls : List Call) (reports : List Bool)
    (after : Document) : Prop where
  /-- Every call reports whether a membership has changed, and leaves lists without equal items. -/
  follows : Follows document calls reports after
  tidy : Tidy after
  hasSubject : ∀ subject, hasSubject after subject =
    said calls .subjects subject (hasSubject document subject)
  hasGroupName : ∀ name, hasGroupName after name =
    said calls .groupNames (.string name) (hasGroupName document name)
  hasUserName : ∀ name, hasUserName after name =
    said calls .userNames (.string name) (hasUserName document name)
  /-- From any moment on, the items that are not removed come first in the order that they had. -/
  order : ∀ (listing : Listing) (earlier later : List Call), calls = earlier ++ later →
    (listing.itemsAfter earlier (listing.items document)).filter (stays later listing) <+:
      listing.items after
  /-- A list is changed by the calls for it alone. -/
  apart : ∀ listing : Listing,
    listing.items after = listing.itemsAfter calls (listing.items document)
  state : after = { document with root := after.root }
  others : ∀ name, (∀ call ∈ calls, name ≠ call.listing.path) →
    after.root.field? name = document.root.field? name

/-- Where the root is a map and each of its lists is absent, null or without equal items, every run
of calls succeeds and changes the lists as sets, and no list or other entry for another. -/
theorem calls_keep_sets {document : Document} (h : Tidy document) (calls : List Call)
    (hcalls : ∀ call ∈ calls, call.item.hasNaN = false) :
    ∃ reports after, (calls.mapM Call.perform).run document = .ok reports after ∧
      ChangedAsSets document calls reports after := by
  obtain ⟨reports, after, hrun, hfollows⟩ := exists_follows h hcalls
  have hcontains (listing : Listing) (value : Value) : (listing.items after).contains value =
      said calls listing value ((listing.items document).contains value) := by
    rw [hfollows.items, contains_itemsAfter hcalls]
  refine ⟨reports, after, hrun, {
    follows := hfollows
    tidy := hfollows.tidy h
    hasSubject := hcontains .subjects
    hasGroupName := fun name ↦ hcontains .groupNames (.string name)
    hasUserName := fun name ↦ hcontains .userNames (.string name)
    order := fun listing earlier later hsplit ↦ ?_
    apart := hfollows.items
    state := hfollows.state
    others := fun _ ↦ hfollows.others }⟩
  rw [hfollows.items, hsplit, itemsAfter_append]
  exact itemsAfter_isPrefix listing later _

/-- A number is removed as an equal one of the other kind, and lists are made of null and of
nothing. -/
theorem calls_keep_sets_of_number :
    let document : Document :=
      { root := .map [("groupNames", .null), ("subjects", .list [.int 80])], separator := .colon }
    let number : Value := .float ⟨0x4054000000000000⟩
    let calls : List Call := [.addSubject number, .removeSubject number, .addGroupName "a",
      .addGroupName "b", .removeGroupName "a", .addUserName "a"]
    Tidy document ∧ (∀ call ∈ calls, call.item.hasNaN = false) ∧
      ∃ reports after, (calls.mapM Call.perform).run document = .ok reports after ∧
        ChangedAsSets document calls reports after ∧ hasSubject after (.int 80) = false ∧
        groupNames after = [.string "b"] ∧ hasUserName after "a" = true := by
  intro document number calls
  have htidy : Tidy document := by
    refine ⟨rfl, fun listing ↦ ?_⟩
    cases listing with
    | subjects => exact .inr (.inr ⟨[.int 80], rfl, List.pairwise_singleton _ _⟩)
    | groupNames => exact .inr (.inl rfl)
    | userNames => exact .inl rfl
  have hfree : ∀ call ∈ calls, call.item.hasNaN = false := by decide
  obtain ⟨reports, after, hrun, hsets⟩ := calls_keep_sets htidy calls hfree
  have hroot : document.root =
      .map [("groupNames", .null), ("subjects", .list [.int 80])] := rfl
  have hgroups : groupNames document = [] := items_of_root hroot .groupNames
  have hleft : groupNames after = Listing.groupNames.itemsAfter calls (groupNames document) :=
    hsets.apart .groupNames
  refine ⟨htidy, hfree, reports, after, hrun, hsets, ?_, ?_, ?_⟩
  · rw [hsets.hasSubject]
    decide
  · rw [hleft, hgroups]
    rfl
  · rw [hsets.hasUserName]
    decide

end ClusterRouter.RoleBinding
