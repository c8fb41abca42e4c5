import ClusterRouter.Proofs.Document.Editing

/-!
# The reported change

What an edit reports is what happened. An edit that fails or reports no change has left the
document as it was; one that reports a change has made another document of it, but for the two
edits that always report one: merging a map into a map, and removing all that the root holds.
-/

namespace ClusterRouter.Document

/-- A change of what is found at a path shows in the whole value. -/
theorem modify?_differs {f : Value → Option Value} {root after : Value} {path : Path}
    (h : root.modify? f path = some after)
    (hf : ∀ old new, root.lookup path = some old → f old = some new → (new == old) = false) :
    (after == root) = false := by
  obtain ⟨old, new, hold, hnew, hafter⟩ := Value.exists_of_modify? h
  by_contra hequal
  have hfound := Value.lookup_beq (by simpa using hequal) path
  rw [hafter, hold] at hfound
  exact Bool.false_ne_true ((hf old new hold hnew).symm.trans hfound)

theorem list_beq_false {xs ys : List Value} (h : xs.length ≠ ys.length) :
    (Value.list xs == .list ys) = false := by
  by_contra hequal
  obtain ⟨zs, hzs, hitems⟩ := Value.exists_list_of_beq (by simpa using hequal)
  cases hzs
  exact h (Value.length_eq_of_equalItems hitems)

theorem map_beq_false {xs ys : Fields} (h : xs.length ≠ ys.length) :
    (Value.map xs == .map ys) = false := by
  by_contra hequal
  obtain ⟨zs, hzs, hfields⟩ := Value.exists_map_of_beq (by simpa using hequal)
  cases hzs
  exact h (Value.length_eq_of_equalFields hfields)

theorem eraseIdx_differs {items : List Value} {place : Nat} (h : place < items.length) :
    (Value.list (items.eraseIdx place) == .list items) = false := by
  apply list_beq_false
  rw [List.length_eraseIdx_of_lt h]
  omega

theorem append_differs (items : List Value) (item : Value) :
    (Value.list (items ++ [item]) == .list items) = false := by
  apply list_beq_false
  simp

theorem removeStep?_differs {old new : Value} {segment : Segment}
    (h : old.removeStep? segment = some new) : (new == old) = false := by
  cases old <;> cases segment <;> try contradiction
  case map.key fields name =>
    rw [Value.removeStep?] at h
    split at h <;> cases h
    next hmem =>
      apply map_beq_false
      have := Fields.length_erase hmem
      omega
  case list.index items i =>
    obtain ⟨place, hplace, rfl⟩ := Option.map_eq_some_iff.mp h
    exact eraseIdx_differs (resolveIndex_lt hplace)

theorem popFrom_differs {wanted old new : Value} (h : popFrom wanted old = some new) :
    (new == old) = false := by
  cases old <;> try contradiction
  case map fields =>
    obtain ⟨key, -, hremoved⟩ := Option.bind_eq_some_iff.mp h
    exact removeStep?_differs hremoved
  case list items =>
    obtain ⟨place, hplace, rfl⟩ := Option.map_eq_some_iff.mp h
    obtain ⟨hlt, -⟩ := List.findIdx?_eq_some_iff_getElem.mp hplace
    exact eraseIdx_differs hlt

theorem ensure_differs {items : List Value} {value new : Value}
    (h : ensure items value = some new) : (new == .list items) = false := by
  unfold ensure at h
  split at h <;> cases h
  exact append_differs items value

/-- At a place of the list, the value replaces what is not equal to it. -/
theorem updatedList_at {items : List Value} {place : Nat} (hlt : place < items.length)
    (value : Value) : updatedList items value (some place) =
      if items[place] == value then ensure items value
      else some (.list (items.set place value)) := by
  rw [updatedList, List.getElem?_eq_getElem hlt]
  rfl

theorem updatedList_differs {items : List Value} {value new : Value} {place : Option Nat}
    (hplace : ∀ n, place = some n → n < items.length)
    (h : updatedList items value place = some new) : (new == .list items) = false := by
  cases place with
  | none => exact ensure_differs h
  | some n =>
    have hlt := hplace n rfl
    rw [updatedList_at hlt] at h
    split at h
    · exact ensure_differs h
    next hne =>
      cases h
      by_contra hequal
      obtain ⟨ys, hys, hitems⟩ := Value.exists_list_of_beq (by simpa using hequal)
      cases hys
      have hfound := Value.getElem?_beq_of_equalItems hitems n
      rw [List.getElem?_set_self hlt, List.getElem?_eq_getElem hlt] at hfound
      exact hne ((Value.beq_comm _ _).trans hfound)

theorem appendChange_differs {item root after : Value} {path : Path}
    (h : appendChange item path root = .ok (some after)) : (after == root) = false := by
  have h : (withList path root).modify? (pushTo item) path = some after := Except.ok.inj h
  by_cases hsame : withList path root = root
  · rw [hsame] at h
    refine modify?_differs h fun old new _ hpush ↦ ?_
    cases old <;> cases hpush
    exact append_differs _ item
  · -- a list was put, so no list was there before
    obtain ⟨old, new, -, hpush, hafter⟩ := Value.exists_of_modify? h
    have hnew : ∃ items, new = .list items := by
      cases old <;> cases hpush
      exact ⟨_, rfl⟩
    obtain ⟨items, rfl⟩ := hnew
    by_contra hequal
    have hfound := Value.lookup_beq (by simpa using hequal) path
    rw [hafter] at hfound
    unfold withList at hsame
    split at hsame
    · next hnone => rw [hnone] at hfound; contradiction
    · next hnull => rw [hnull] at hfound; contradiction
    · exact hsame rfl

theorem positionOf?_lt {items : List Value} {value : Value} {place : Nat}
    (h : positionOf? items value = some place) : place < items.length :=
  (List.findIdx?_eq_some_iff_getElem.mp h).1

/-- What is known of the item to be replaced, whichever way the search for it ends. -/
def Replacement.Fits (items : List Value) (index : Option Int64) (current : Option Value) :
    Replacement → Prop
  | .noneWanted => index = none ∧ current = none
  | .notThere => current ≠ none
  | .outOfRange i => index = some i ∧ current = none
  | .at place => place < items.length

theorem replacement_fits (items : List Value) (index : Option Int64) (current : Option Value) :
    (Replacement.of items index current).Fits items index current := by
  cases current with
  | some wanted =>
    cases hplace : positionOf? items wanted with
    | none =>
      simp only [Replacement.of, hplace, Option.elim_none]
      exact Option.some_ne_none wanted
    | some place =>
      simp only [Replacement.of, hplace, Option.elim_some]
      exact positionOf?_lt hplace
  | none => cases index with
    | none => exact ⟨rfl, rfl⟩
    | some i =>
      cases hplace : resolveIndex i items.length with
      | none =>
        simp only [Replacement.of, hplace, Option.elim_none]
        exact ⟨rfl, rfl⟩
      | some place =>
        simp only [Replacement.of, hplace, Option.elim_some]
        exact resolveIndex_lt hplace

theorem place_lt_of_replacement {items : List Value} {index : Option Int64}
    {current : Option Value} {place : Nat} (h : Replacement.of items index current = .at place) :
    place < items.length := by
  have hfits := replacement_fits items index current
  rwa [h] at hfits

theorem updated_differs {text : String} {value entry new : Value} {index : Option Int64}
    {current : Option Value} (hmerge : ¬(value.asMap.isSome ∧ entry.asMap.isSome))
    (h : updated text value index current entry = .ok (some new)) : (new == entry) = false := by
  cases entry with
  | map fields => cases value <;> first | exact absurd ⟨rfl, rfl⟩ hmerge | contradiction
  | list items =>
    simp only [updated] at h
    cases hplace : Replacement.of items index current with
    | noneWanted =>
      rw [hplace] at h
      exact updatedList_differs (by simp) (Except.ok.inj h)
    | «at» place =>
      rw [hplace] at h
      exact updatedList_differs (by simpa using place_lt_of_replacement hplace) (Except.ok.inj h)
    | notThere => rw [hplace] at h; cases h
    | outOfRange i => rw [hplace] at h; contradiction
  | _ => exact absurd (Except.ok.inj h) (by simp)

/-- An update at a path where a map is, by a map. -/
def MergesMaps (document : Document) (text : String) (value : Value) : Prop :=
  value.asMap.isSome ∧ ∃ fields, document.lookup text = .ok (some (.map fields))

theorem updateChange_differs {document : Document} {text : String} {value after : Value}
    {index : Option Int64} {current : Option Value} (hmerge : ¬MergesMaps document text value)
    (h : document.changeAt text (updateChange text value index current) = .ok (some after)) :
    (after == document.root) = false := by
  cases hpath : document.parsePath text with
  | error e => rw [changeAt, hpath] at h; contradiction
  | ok path =>
    rw [changeAt_of_parsePath hpath, updateChange] at h
    cases hentry : document.root.lookup path with
    | none => rw [hentry] at h; cases h
    | some entry =>
      simp only [hentry] at h
      cases hupdated : updated text value index current entry with
      | error e => rw [hupdated] at h; contradiction
      | ok replaced =>
        rw [hupdated] at h
        obtain ⟨new, hnew, hmodify⟩ := Option.bind_eq_some_iff.mp (Except.ok.inj h)
        subst hnew
        refine modify?_differs hmodify fun old changed hold hchanged ↦ ?_
        cases hentry.symm.trans hold
        cases hchanged
        refine updated_differs (fun hmaps ↦ hmerge ⟨hmaps.1, ?_⟩) hupdated
        obtain ⟨fields, hfields⟩ := Option.isSome_iff_exists.mp hmaps.2
        cases entry <;> cases hfields
        exact ⟨fields, by rw [lookup_of_parsePath hpath, hentry]⟩

theorem putChange_differs {value root after : Value} {path : Path}
    (h : putChange value path root = .ok (some after)) : (after == root) = false := by
  have h := Except.ok.inj h
  split at h
  · contradiction
  · next hlookup =>
    by_contra hequal
    have hfound := Value.lookup_beq (by simpa using hequal) path
    rw [Value.lookup_create? h] at hfound
    cases hroot : root.lookup path with
    | none => rw [hroot] at hfound; contradiction
    | some found =>
      rw [hroot] at hfound hlookup
      exact hlookup ((Value.beq_comm _ _).trans hfound)

theorem isContainer_of_clear? {root after : Value} (h : root.clear? = some after) :
    root.isContainer := by
  cases root <;> first | rfl | contradiction

theorem clear?_isSome {root : Value} (h : root.isContainer) : root.clear?.isSome := by
  cases root <;> first | rfl | contradiction

theorem removeChange_differs {root after : Value} {path : Path} (hpath : path ≠ [])
    (h : removeChange path root = .ok (some after)) : (after == root) = false := by
  have h := Except.ok.inj h
  rw [List.getLast?_eq_some_getLast hpath, Option.elim_some] at h
  exact modify?_differs h fun _ _ _ hremoved ↦ removeStep?_differs hremoved

theorem popChange_differs {wanted root after : Value} {path : Path}
    (h : popChange wanted path root = .ok (some after)) : (after == root) = false :=
  modify?_differs (Except.ok.inj h) fun _ _ _ hpopped ↦ popFrom_differs hpopped

/-! ### All edits -/

/-- An edit of a document with its arguments. -/
inductive Operation where
  | put (text : String) (value : Value)
  | create (files : FileSystem) (text : String) (value : Value)
  | append (text : String) (item : Value)
  | update (text : String) (value : Value) (index : Option Int64) (current : Option Value)
  | remove (text : String)
  | pop (text : String) (wanted : Value)
  | apply (edit : Edit)

namespace Operation

def perform : Operation → Editing Bool
  | put text value => Document.put text value
  | create files text value => Document.create files text value
  | append text item => Document.append text item
  | update text value index current => Document.update text value index current
  | remove text => Document.remove text
  | pop text wanted => Document.pop text wanted
  | apply edit => edit.apply

/-- The edits that report a change whatever they meet: merging a map into a map, and removing all
that a container at the root holds. -/
def AlwaysReports (document : Document) : Operation → Prop
  | update text value _ _ => MergesMaps document text value
  | apply edit => edit.action = .update ∧ MergesMaps document edit.key edit.value
  | remove text => document.parsePath text = .ok [] ∧ document.root.isContainer
  | _ => False

/-- What becomes of the root of a document. -/
def change (document : Document) : Operation → Except DocumentError (Option Value)
  | put text value => document.changeAt text (putChange value)
  | create files text value =>
    if document.filename.any files.contains then .ok none
    else document.changeAt text (putChange value)
  | append text item => document.changeAt text (appendChange item)
  | update text value index current =>
    document.changeAt text (updateChange text value index current)
  | remove text => document.changeAt text removeChange
  | pop text wanted => document.changeAt text (popChange wanted)
  | apply edit =>
    match edit.action with
    | .put => document.changeAt edit.key (putChange edit.value)
    | .update =>
      document.changeAt edit.key (updateChange edit.key edit.value edit.index edit.current)
    | .append => document.changeAt edit.key (appendChange edit.value)

theorem perform_run (document : Document) (operation : Operation) :
    operation.perform.run document = concluded document (operation.change document) := by
  cases operation with
  | put text value => exact put_run document text value
  | create files text value => exact create_run document files text value
  | append text item => exact append_run document text item
  | update text value index current => exact update_run document text value index current
  | remove text => exact remove_run document text
  | pop text wanted => exact pop_run document text wanted
  | apply edit =>
    rw [perform, Edit.apply, change]
    cases edit.action with
    | put => exact put_run document edit.key edit.value
    | update => exact update_run document edit.key edit.value edit.index edit.current
    | append => exact append_run document edit.key edit.value

end Operation

theorem exists_of_changeAt {document : Document} {text : String} {change : Change} {root : Value}
    (h : document.changeAt text change = .ok (some root)) :
    ∃ path, document.parsePath text = .ok path ∧ change path document.root = .ok (some root) := by
  cases hpath : document.parsePath text with
  | error e => rw [changeAt, hpath] at h; contradiction
  | ok path => exact ⟨path, rfl, (changeAt_of_parsePath hpath change).symm.trans h⟩

/-- A new root is another one, but for the edits that always report a change. -/
theorem Operation.change_differs {document : Document} {operation : Operation} {after : Value}
    (hreports : ¬operation.AlwaysReports document)
    (h : operation.change document = .ok (some after)) : (after == document.root) = false := by
  have hput {text : String} {value : Value}
      (h : document.changeAt text (putChange value) = .ok (some after)) :
      (after == document.root) = false := by
    obtain ⟨path, -, h⟩ := exists_of_changeAt h
    exact putChange_differs h
  have happend {text : String} {item : Value}
      (h : document.changeAt text (appendChange item) = .ok (some after)) :
      (after == document.root) = false := by
    obtain ⟨path, -, h⟩ := exists_of_changeAt h
    exact appendChange_differs h
  cases operation with
  | put text value => exact hput h
  | create files text value =>
    rw [change] at h
    split at h
    · cases h
    · exact hput h
  | append text item => exact happend h
  | update text value index current => exact updateChange_differs hreports h
  | remove text =>
    obtain ⟨path, hpath, h⟩ := exists_of_changeAt h
    by_cases hroot : path = []
    · subst hroot
      exact absurd ⟨hpath, isContainer_of_clear? (Except.ok.inj h)⟩ hreports
    · exact removeChange_differs hroot h
  | pop text wanted =>
    obtain ⟨path, -, h⟩ := exists_of_changeAt h
    exact popChange_differs h
  | apply edit =>
    rw [change] at h
    cases haction : edit.action with
    | put => rw [haction] at h; exact hput h
    | append => rw [haction] at h; exact happend h
    | update =>
      rw [haction] at h
      exact updateChange_differs (fun hmerge ↦ hreports ⟨haction, hmerge⟩) h

theorem changeAt_updateChange_of_mergesMaps {document : Document} {text : String} {value : Value}
    {index : Option Int64} {current : Option Value} (h : MergesMaps document text value) :
    ∃ after, document.changeAt text (updateChange text value index current) = .ok (some after) := by
  obtain ⟨hvalue, fields, hlookup⟩ := h
  obtain ⟨path, hpath, hentry⟩ := exists_path_of_lookup hlookup
  cases value <;> try contradiction
  next incoming =>
    let merged : Value → Option Value := fun _ ↦ some (.map (Fields.merge fields incoming))
    have hmodified : (document.root.modify? merged path).isSome :=
      (Value.modify?_isSome hentry).trans rfl
    obtain ⟨after, hafter⟩ := Option.isSome_iff_exists.mp hmodified
    refine ⟨after, ?_⟩
    rw [changeAt_of_parsePath hpath, updateChange, hentry]
    exact congrArg Except.ok hafter

/-- The edits that always report a change do so. -/
theorem Operation.change_of_alwaysReports {document : Document} {operation : Operation}
    (h : operation.AlwaysReports document) :
    ∃ after, operation.change document = .ok (some after) := by
  cases operation with
  | update text value index current => exact changeAt_updateChange_of_mergesMaps h
  | remove text =>
    obtain ⟨hpath, hcontainer⟩ := h
    obtain ⟨after, hafter⟩ := Option.isSome_iff_exists.mp (clear?_isSome hcontainer)
    exact ⟨after, (changeAt_of_parsePath hpath removeChange).trans (congrArg Except.ok hafter)⟩
  | apply edit =>
    rw [change, h.1]
    exact changeAt_updateChange_of_mergesMaps h.2
  | _ => contradiction

/-- An edit that fails or reports no change leaves the document as it was, and one that reports a
change makes another one of it, but for those that always report one. -/
theorem reported_change_exact (document : Document) (operation : Operation) :
    (∀ e after, operation.perform.run document = .error e after → after = document) ∧
      (∀ after, operation.perform.run document = .ok false after → after = document) ∧
      (∀ after, operation.perform.run document = .ok true after →
        ¬operation.AlwaysReports document → (after.root == document.root) = false) ∧
      (operation.AlwaysReports document →
        ∃ after, operation.perform.run document = .ok true after) := by
  rw [Operation.perform_run]
  refine ⟨fun e after h ↦ eq_of_concluded_error h, fun after h ↦ eq_of_concluded_false h, ?_, ?_⟩
  · intro after h hreports
    obtain ⟨root, hroot, rfl⟩ := exists_of_concluded_true h
    exact Operation.change_differs hreports hroot
  · intro h
    obtain ⟨root, hroot⟩ := Operation.change_of_alwaysReports h
    exact ⟨{ document with root }, by rw [hroot]; rfl⟩

/-- An append to a missing list, a repeated put and a merge of a map into itself. -/
theorem reported_change_exact_of_small_edits :
    let document : Document := { root := .map [("a", .map [("b", .int 1)])] }
    let appended : Operation := .append "a.c" (.int 2)
    let repeated : Operation := .put "a.b" (.int 1)
    let merged : Operation := .update "a" (.map [("b", .int 1)]) none none
    (∃ after, appended.perform.run document = .ok true after ∧
        (after.root == document.root) = false) ∧
      (∃ after, repeated.perform.run document = .ok false after ∧ after = document) ∧
      ∃ after, merged.perform.run document = .ok true after := by
  intro document appended repeated merged
  have hpath : Path.parse "a" .dot = .ok [.key "a"] := by decide +kernel
  have hlist : Path.parse "a.c" .dot = .ok [.key "a", .key "c"] := by decide +kernel
  have hentry : Path.parse "a.b" .dot = .ok [.key "a", .key "b"] := by decide +kernel
  have hmerges : merged.AlwaysReports document := by
    refine ⟨rfl, [("b", .int 1)], ?_⟩
    rw [lookup, parsePath, hpath]
    rfl
  have happended : appended.perform.run document = .ok true
      { document with root := .map [("a", .map [("b", .int 1), ("c", .list [.int 2])])] } := by
    rw [Operation.perform_run, Operation.change, changeAt, parsePath, hlist]
    rfl
  have hrepeated : repeated.perform.run document = .ok false document := by
    rw [Operation.perform_run, Operation.change, changeAt, parsePath, hentry]
    rfl
  exact ⟨⟨_, happended, (reported_change_exact document appended).2.2.1 _ happended id⟩,
    ⟨_, hrepeated, (reported_change_exact document repeated).2.1 _ hrepeated⟩,
    (reported_change_exact document merged).2.2.2 hmerges⟩

end ClusterRouter.Document
