import ClusterRouter.Proofs.Document.Locality
import ClusterRouter.Proofs.Document.Modification

/-!
# An update ensures presence

An update of a list does one of five things, and `ListUpdate` says which: it fails for its index, it
does not find the item that it is to replace, it finds the value already there, it puts the value at
the end, or it puts it in the place of another item. An item that is to be replaced but is equal to
the value is found to be there, so nothing is added beside it. What was done once is there the
second time, and a map that was merged stays as it is when it is merged again.
-/

namespace ClusterRouter.Document

/-! ### What an update makes of a value -/

section

variable {text : String} {value : Value} {items : List Value} {index : Option Int64}
  {current : Option Value}

/-- Which item an index means is seen from the length of the list. -/
theorem replacement_congr_length {others : List Value} (h : others.length = items.length) :
    Replacement.of others index none = Replacement.of items index none := by
  cases index <;> simp only [Replacement.of, h]

/-- What an update can do to a list. -/
inductive ListUpdate (text : String) (items : List Value) (value : Value) (index : Option Int64)
    (current : Option Value) : Except DocumentError (Option Value) → Prop where
  | outOfRange {i : Int64} (hindex : index = some i) (hcurrent : current = none) :
    ListUpdate text items value index current (.error (.indexOutOfRange text i items.length))
  | notThere (hcurrent : current ≠ none) : ListUpdate text items value index current (.ok none)
  | present (hpresent : items.contains value = true) :
    ListUpdate text items value index current (.ok none)
  | added (hindex : index = none) (hcurrent : current = none)
      (hnew : items.contains value = false) :
    ListUpdate text items value index current (.ok (some (.list (items ++ [value]))))
  | replaced {place : Nat} (hplace : Replacement.of items index current = .at place) :
    ListUpdate text items value index current (.ok (some (.list (items.set place value))))

theorem listUpdate_updated (text : String) (items : List Value) (value : Value)
    (index : Option Int64) (current : Option Value) :
    ListUpdate text items value index current (updated text value index current (.list items)) := by
  have hfits := replacement_fits items index current
  rw [updated]
  cases hplace : Replacement.of items index current with
  | noneWanted =>
    rw [hplace] at hfits
    obtain ⟨hindex, hcurrent⟩ := hfits
    simp only [updatedList, ensure]
    split
    · next h => exact .present h
    · next h => exact .added hindex hcurrent (by simpa using h)
  | notThere =>
    rw [hplace] at hfits
    exact .notThere hfits
  | outOfRange i =>
    rw [hplace] at hfits
    exact .outOfRange hfits.1 hfits.2
  | «at» place =>
    have hlt := place_lt_of_replacement hplace
    simp only [updatedList_at hlt]
    split
    · next hequal =>
      -- the item that is to be replaced is an equal one, so one is there
      have hpresent : items.contains value = true :=
        Value.contains_iff.mpr ⟨items[place], List.getElem_mem hlt, hequal⟩
      rw [ensure, if_pos hpresent]
      exact .present hpresent
    · exact .replaced hplace

theorem contains_append_self (hvalue : value.hasNaN = false) (items : List Value) :
    (items ++ [value]).contains value = true :=
  Value.contains_iff.mpr
    ⟨value, List.mem_append_right items List.mem_cons_self, Value.beq_self hvalue⟩

theorem contains_set_self (hvalue : value.hasNaN = false) {place : Nat} (h : place < items.length) :
    (items.set place value).contains value = true :=
  Value.contains_iff.mpr ⟨value, List.mem_set h value, Value.beq_self hvalue⟩

/-- Without a current value to look for, an update of a list that succeeds does nothing after
another one. -/
theorem updated_list_again (hvalue : value.hasNaN = false) {replaced : Option Value}
    (h : updated text value index none (.list items) = .ok replaced) :
    updated text value index none (replaced.getD (.list items)) = .ok none := by
  have hdone := listUpdate_updated text items value index none
  rw [h] at hdone
  cases hdone with
  | notThere => contradiction
  | present => exact h
  | added hindex =>
    subst hindex
    have hpresent := contains_append_self hvalue items
    simp only [Option.getD_some, updated, Replacement.of, updatedList, ensure, if_pos hpresent]
  | @replaced place hplace =>
    have hlt := place_lt_of_replacement hplace
    have hpresent := contains_set_self hvalue hlt
    have hsame : Replacement.of (items.set place value) index none = .at place :=
      (replacement_congr_length List.length_set).trans hplace
    simp only [Option.getD_some, updated, hsame, updatedList, List.getElem?_set_self hlt,
      Option.all_some, Value.beq_self hvalue, if_true, ensure, if_pos hpresent]

/-- What an update makes of a value, another one like it makes of that again, or nothing. -/
theorem updated_again (hwell : value.WellFormed) (hvalue : value.hasNaN = false)
    {entry new : Value} (hentry : entry.WellFormed)
    (h : updated text value index none entry = .ok (some new)) :
    updated text value index none new = .ok none ∨
      updated text value index none new = .ok (some new) := by
  cases entry with
  | map fields => cases value with
    | map incoming =>
      cases h
      right
      rw [updated, Fields.merge_merge hentry.1 hwell.1]
    | _ => contradiction
  | list items => exact .inl (updated_list_again hvalue h)
  | _ => cases h

/-- The value is present in what an update makes. -/
theorem includes_of_updated (hwell : value.WellFormed) (hvalue : value.hasNaN = false)
    {entry new : Value} (h : updated text value index current entry = .ok (some new)) :
    includes new value = true := by
  cases entry with
  | map fields => cases value with
    | map incoming =>
      cases h
      refine List.all_eq_true.mpr fun ⟨key, v⟩ hmem ↦ ?_
      have hmerged := Fields.get?_merge_of_mem hwell.1 hmem fields
      have hnumber : v.hasNaN = false := Value.hasNaN_of_mem_fields hvalue _ hmem
      change (Fields.get? (Fields.merge fields incoming) key == some v) = true
      rw [hmerged]
      exact Value.beq_self hnumber
    | _ => contradiction
  | list items =>
    have hdone := listUpdate_updated text items value index current
    rw [h] at hdone
    cases hdone with
    | added => exact contains_append_self hvalue items
    | replaced hplace => exact contains_set_self hvalue (place_lt_of_replacement hplace)
  | _ => cases h

/-- Where an update without a current value does nothing to a list, the value is there. -/
theorem contains_of_updated (h : updated text value index none (.list items) = .ok none) :
    items.contains value = true := by
  have hdone := listUpdate_updated text items value index none
  rw [h] at hdone
  cases hdone with
  | notThere => contradiction
  | present hpresent => exact hpresent

end

/-! ### Lists without equal items -/

/-- No two items of a list are equal. -/
def Distinct (items : List Value) : Prop := items.Pairwise fun a b ↦ (a == b) = false

/-- A list with an item at the end, unless an equal one is there. -/
def ensured (items : List Value) (value : Value) : List Value :=
  if items.contains value then items else items ++ [value]

/-- An item comes at the end, and only where none is equal to it. -/
theorem exists_ensured_eq (items : List Value) (value : Value) :
    ∃ added, ensured items value = items ++ added ∧ added.Sublist [value] ∧
      (Distinct items → Distinct (items ++ added)) := by
  unfold ensured
  split
  · exact ⟨[], (List.append_nil items).symm, List.nil_sublist _, by simp⟩
  next hnew =>
    refine ⟨[value], rfl, .refl _, fun hdistinct ↦ ?_⟩
    refine List.pairwise_append.mpr ⟨hdistinct, List.pairwise_singleton _ _, ?_⟩
    intro item hitem last hlast
    cases List.mem_singleton.mp hlast
    rw [← Bool.not_eq_true]
    exact fun hequal ↦ hnew (Value.contains_iff.mpr ⟨item, hitem, hequal⟩)

/-- Items that come one after the other are added in their order, some of them left out. -/
theorem exists_foldl_ensured_eq (items values : List Value) :
    ∃ added, values.foldl ensured items = items ++ added ∧ added.Sublist values ∧
      (Distinct items → Distinct (items ++ added)) := by
  induction values generalizing items with
  | nil => exact ⟨[], (List.append_nil items).symm, .slnil, by simp⟩
  | cons value values ih =>
    obtain ⟨first, hfirst, hsub, hkeeps⟩ := exists_ensured_eq items value
    obtain ⟨rest, hrest, hsubs, hkeep⟩ := ih (ensured items value)
    rw [hfirst, List.append_assoc] at hrest hkeep
    exact ⟨first ++ rest, by rw [List.foldl_cons, hfirst, hrest], hsub.append hsubs,
      fun hdistinct ↦ hkeep (hkeeps hdistinct)⟩

/-! ### Updates of a document -/

section

variable {document : Document} {text : String} {path : Path} {value entry : Value}
  {index : Option Int64} {current : Option Value}

theorem parsePath_after (operation : Operation) (document : Document) (text : String) :
    (operation.after document).parsePath text = document.parsePath text := by
  rcases operation.after_cases document with hsame | ⟨root, -, hafter⟩
  · rw [hsame]
  · rw [hafter]
    rfl

theorem change_update (hpath : document.parsePath text = .ok path)
    (hentry : document.root.lookup path = some entry) :
    (Operation.update text value index current).change document =
      (updated text value index current entry).map fun replaced ↦
        replaced.map fun new ↦ document.root.modify (fun _ ↦ new) path := by
  have hput (new : Value) : document.root.modify? (fun _ ↦ some new) path =
      some (document.root.modify (fun _ ↦ new) path) := Value.modify?_of_lookup hentry _
  rw [Operation.change, changeAt_of_parsePath hpath, updateChange, hentry]
  simp only [hput]
  rcases updated text value index current entry with e | _ | new <;> rfl

theorem answer_update (hpath : document.parsePath text = .ok path)
    (hentry : document.root.lookup path = some entry) :
    (Operation.update text value index current).answer document =
      (updated text value index current entry).map Option.isSome := by
  rw [Operation.answer_eq, change_update hpath hentry]
  rcases updated text value index current entry with e | _ | new <;> rfl

theorem after_update_of_some (hpath : document.parsePath text = .ok path)
    (hentry : document.root.lookup path = some entry) {new : Value}
    (h : updated text value index current entry = .ok (some new)) :
    (Operation.update text value index current).after document =
      { document with root := document.root.modify (fun _ ↦ new) path } := by
  apply Operation.after_of_change
  rw [change_update hpath hentry, h]
  rfl

theorem after_update_of_ne (hpath : document.parsePath text = .ok path)
    (hentry : document.root.lookup path = some entry)
    (h : ∀ new, updated text value index current entry ≠ .ok (some new)) :
    (Operation.update text value index current).after document = document := by
  apply Operation.after_of_answer_ne
  rw [answer_update hpath hentry]
  rcases hupdated : updated text value index current entry with e | _ | new
  · exact nofun
  · exact nofun
  · exact absurd hupdated (h new)

/-- What is at the path after an update: what it made of the old value, or the old value. -/
theorem lookup_after_update (hpath : document.parsePath text = .ok path)
    (hentry : document.root.lookup path = some entry) (value : Value) (index : Option Int64)
    (current : Option Value) :
    ((Operation.update text value index current).after document).root.lookup path =
      some (match updated text value index current entry with
        | .ok (some new) => new
        | _ => entry) := by
  split
  · next new hupdated =>
    rw [after_update_of_some hpath hentry hupdated, Value.lookup_modify, hentry, Option.map_some]
  · next h => rw [after_update_of_ne hpath hentry h, hentry]

/-- A report tells whether another value was made of the one that was found. -/
theorem exists_updated_of_answer (hpath : document.parsePath text = .ok path)
    (hentry : document.root.lookup path = some entry) {reported : Bool}
    (h : (Operation.update text value index current).answer document = .ok reported) :
    ∃ replaced, updated text value index current entry = .ok replaced ∧
      replaced.isSome = reported := by
  rw [answer_update hpath hentry] at h
  cases hupdated : updated text value index current entry with
  | error e =>
    rw [hupdated] at h
    contradiction
  | ok replaced =>
    rw [hupdated] at h
    exact ⟨replaced, rfl, Except.ok.inj h⟩

/-- An update that reports a change has found a value and made another of it. -/
theorem exists_of_answer_update
    (h : (Operation.update text value index current).answer document = .ok true) :
    ∃ path entry new, document.parsePath text = .ok path ∧
      document.root.lookup path = some entry ∧
      updated text value index current entry = .ok (some new) := by
  obtain ⟨root, hroot⟩ := Operation.exists_change_of_answer h
  rw [Operation.change, changeAt] at hroot
  cases hpath : document.parsePath text with
  | error e =>
    rw [hpath] at hroot
    contradiction
  | ok path => cases hentry : document.root.lookup path with
    | none =>
      rw [hpath, Except.bind, updateChange, hentry] at hroot
      cases hroot
    | some entry =>
      obtain ⟨replaced, hupdated, hsome⟩ := exists_updated_of_answer hpath hentry h
      obtain ⟨new, rfl⟩ := Option.isSome_iff_exists.mp hsome
      exact ⟨path, entry, new, rfl, hentry, hupdated⟩

/-! #### The same update again -/

/-- A second update leaves what the first one has left. -/
theorem after_update_again (hroot : document.root.WellFormed) (hwell : value.WellFormed)
    (hvalue : value.hasNaN = false) :
    (Operation.update text value index none).after
        ((Operation.update text value index none).after document) =
      (Operation.update text value index none).after document := by
  by_cases hanswer : (Operation.update text value index none).answer document = .ok true
  · obtain ⟨path, entry, new, hpath, hentry, hupdated⟩ := exists_of_answer_update hanswer
    have hformed := Value.wellFormed_of_lookup hroot hentry
    have hagain := updated_again hwell hvalue hformed hupdated
    rw [after_update_of_some hpath hentry hupdated]
    have hpath' : parsePath { document with root := document.root.modify (fun _ ↦ new) path } text =
        .ok path := hpath
    have hnew : (document.root.modify (fun _ ↦ new) path).lookup path = some new := by
      rw [Value.lookup_modify, hentry, Option.map_some]
    rcases hagain with hnothing | hsame
    · exact after_update_of_ne hpath' hnew fun other ↦ by rw [hnothing]; exact nofun
    · rw [after_update_of_some hpath' hnew hsame, Value.modify_modify]
      rfl
  · rw [Operation.after_of_answer_ne hanswer, Operation.after_of_answer_ne hanswer]

/-- A second update of a list reports no change. -/
theorem answer_update_again (hvalue : value.hasNaN = false) {items : List Value}
    (hitems : document.lookup text = .ok (some (.list items))) {reported : Bool}
    (h : (Operation.update text value index none).answer document = .ok reported) :
    (Operation.update text value index none).answer
      ((Operation.update text value index none).after document) = .ok false := by
  obtain ⟨path, hpath, hentry⟩ := exists_path_of_lookup hitems
  obtain ⟨replaced, hupdated, -⟩ := exists_updated_of_answer hpath hentry h
  have hleft : ((Operation.update text value index none).after document).root.lookup path =
      some (replaced.getD (.list items)) := by
    rw [lookup_after_update hpath hentry, hupdated]
    cases replaced <;> rfl
  rw [answer_update ((parsePath_after _ _ _).trans hpath) hleft, updated_list_again hvalue hupdated]
  rfl

/-! #### What is there afterwards -/

theorem contains_of_lookup (hpath : document.parsePath text = .ok path)
    (hentry : document.root.lookup path = some entry) (value : Value) :
    document.contains text value = .ok (includes entry value) := by
  rw [contains, lookup_of_parsePath hpath, hentry]
  rfl

theorem contains_after_update_of_changed (hwell : value.WellFormed) (hvalue : value.hasNaN = false)
    (h : (Operation.update text value index current).answer document = .ok true) :
    ((Operation.update text value index current).after document).contains text value =
      .ok true := by
  obtain ⟨path, entry, new, hpath, hentry, hupdated⟩ := exists_of_answer_update h
  have hleft := lookup_after_update hpath hentry value index current
  rw [hupdated] at hleft
  rw [contains_of_lookup ((parsePath_after _ _ _).trans hpath) hleft,
    includes_of_updated hwell hvalue hupdated]

theorem contains_after_update_of_unchanged {items : List Value}
    (hitems : document.lookup text = .ok (some (.list items)))
    (h : (Operation.update text value index none).answer document = .ok false) :
    ((Operation.update text value index none).after document).contains text value = .ok true := by
  obtain ⟨path, hpath, hentry⟩ := exists_path_of_lookup hitems
  obtain ⟨replaced, hupdated, hnone⟩ := exists_updated_of_answer hpath hentry h
  cases replaced with
  | some new => contradiction
  | none =>
    have hsame := Operation.after_of_answer_ne (h.trans_ne (by decide))
    rw [hsame, contains_of_lookup hpath hentry, includes, contains_of_updated hupdated]

/-! #### The items of a list -/

/-- An update that asks for no item adds at the end, if at all. -/
theorem lookup_after_update_list {items : List Value}
    (hitems : document.lookup text = .ok (some (.list items))) :
    ((Operation.update text value none none).after document).lookup text =
      .ok (some (.list (ensured items value))) := by
  obtain ⟨path, hpath, hentry⟩ := exists_path_of_lookup hitems
  rw [lookup_of_parsePath ((parsePath_after _ _ _).trans hpath), lookup_after_update hpath hentry]
  simp only [updated, Replacement.of, updatedList, ensure, ensured]
  by_cases hpresent : items.contains value = true
  · simp only [if_pos hpresent]
  · simp only [if_neg hpresent]

/-- A row of updates that ask for no item adds at the end. -/
theorem lookup_after_updates (values : List Value) {items : List Value}
    (hitems : document.lookup text = .ok (some (.list items))) :
    (values.foldl (fun left value ↦ (Operation.update text value none none).after left)
        document).lookup text = .ok (some (.list (values.foldl ensured items))) := by
  induction values generalizing document items with
  | nil => exact hitems
  | cons value values ih => exact ih (lookup_after_update_list hitems)

/-- An update that asks for an item puts the value in one place at most, however it ends. -/
theorem lookup_after_update_at {items : List Value}
    (hitems : document.lookup text = .ok (some (.list items)))
    (hasked : index ≠ none ∨ current ≠ none) :
    ∃ (left : List Value) (place : Nat),
      ((Operation.update text value index current).after document).lookup text =
        .ok (some (.list left)) ∧ left.length = items.length ∧
      ∀ n ≠ place, left[n]? = items[n]? := by
  obtain ⟨path, hpath, hentry⟩ := exists_path_of_lookup hitems
  have hleft := lookup_after_update hpath hentry value index current
  have hpath' := (parsePath_after (.update text value index current) document text).trans hpath
  rw [lookup_of_parsePath hpath', hleft]
  have hdone := listUpdate_updated text items value index current
  cases hupdated : updated text value index current (.list items) with
  | error e => exact ⟨items, 0, rfl, rfl, fun _ _ ↦ rfl⟩
  | ok replaced =>
    rw [hupdated] at hdone
    cases hdone with
    | notThere => exact ⟨items, 0, rfl, rfl, fun _ _ ↦ rfl⟩
    | present => exact ⟨items, 0, rfl, rfl, fun _ _ ↦ rfl⟩
    | added hindex hcurrent => exact absurd hasked (by simp [hindex, hcurrent])
    | @replaced place =>
      exact ⟨items.set place value, place, rfl, List.length_set,
        fun n hn ↦ List.getElem?_set_ne hn.symm⟩

end

/-- An update ensures that the value is present. Without a current value, the same update again
leaves the document as it is and reports no change of a list. After a report of a change, and after
any other report on a list in which nothing was looked for, the value is there. Where no item is
asked for, a row of updates adds some of its values at the end of a list, and a list without equal
items stays one. Where one is asked for, the list keeps its length, and all but one of its places
keep their items. -/
theorem update_ensures {document : Document} (hroot : document.root.WellFormed) {value : Value}
    (hwell : value.WellFormed) (hvalue : value.hasNaN = false) (text : String)
    (index : Option Int64) (current : Option Value) :
    let plain := Operation.update text value index none
    let update := Operation.update text value index current
    (plain.after (plain.after document) = plain.after document ∧
      ∀ items reported, document.lookup text = .ok (some (.list items)) →
        plain.answer document = .ok reported → plain.answer (plain.after document) = .ok false) ∧
      ((update.answer document = .ok true →
          (update.after document).contains text value = .ok true) ∧
        ∀ items, document.lookup text = .ok (some (.list items)) →
          plain.answer document = .ok false →
            (plain.after document).contains text value = .ok true) ∧
      (∀ items values, document.lookup text = .ok (some (.list items)) →
        ∃ added, (values.foldl (fun left value ↦ (Operation.update text value none none).after left)
            document).lookup text = .ok (some (.list (items ++ added))) ∧
          added.Sublist values ∧ (Distinct items → Distinct (items ++ added))) ∧
      ∀ items, document.lookup text = .ok (some (.list items)) → index ≠ none ∨ current ≠ none →
        ∃ (left : List Value) (place : Nat),
          (update.after document).lookup text = .ok (some (.list left)) ∧
            left.length = items.length ∧ ∀ n ≠ place, left[n]? = items[n]? := by
  refine ⟨⟨after_update_again hroot hwell hvalue, ?_⟩,
    ⟨contains_after_update_of_changed hwell hvalue, ?_⟩, ?_, ?_⟩
  · intro items reported hitems hreported
    exact answer_update_again hvalue hitems hreported
  · intro items hitems hunchanged
    exact contains_after_update_of_unchanged hitems hunchanged
  · intro items values hitems
    obtain ⟨added, hadded, hsub, hdistinct⟩ := exists_foldl_ensured_eq items values
    exact ⟨added, (lookup_after_updates values hitems).trans (by rw [hadded]), hsub, hdistinct⟩
  · intro items hitems hasked
    exact lookup_after_update_at hitems hasked

/-- An item is replaced by an index that counts from the end, and other values come one by one. -/
theorem update_ensures_in_small_list :
    let document : Document := { root := .map [("a", .list [.int 1, .int 2])] }
    let update := Operation.update "a" (.int 3) (some (-2)) none
    document.root.WellFormed ∧ update.answer document = .ok true ∧
      update.after (update.after document) = update.after document ∧
      update.answer (update.after document) = .ok false ∧
      (update.after document).contains "a" (.int 3) = .ok true ∧
      (∃ added, ([.int 3, .int 1, .int 3].foldl
          (fun left value ↦ (Operation.update "a" value none none).after left)
          document).lookup "a" = .ok (some (.list ([.int 1, .int 2] ++ added))) ∧
        Distinct ([.int 1, .int 2] ++ added)) ∧
      ∃ left : List Value, (update.after document).lookup "a" = .ok (some (.list left)) ∧
        left.length = 2 := by
  intro document update
  have hroot : document.root.WellFormed := ⟨by decide, ⟨trivial, trivial, trivial⟩, trivial⟩
  have hparse : Path.parse "a" .dot = .ok [.key "a"] := by decide +kernel
  have hpath : document.parsePath "a" = .ok [.key "a"] :=
    congrArg (Except.mapError DocumentError.path) hparse
  have hitems : document.lookup "a" = .ok (some (.list [.int 1, .int 2])) :=
    lookup_of_parsePath hpath
  have hentry : document.root.lookup [.key "a"] = some (.list [.int 1, .int 2]) := rfl
  have hanswer : update.answer document = .ok true :=
    (answer_update hpath hentry).trans (by decide +kernel)
  have hdistinct : Distinct [.int 1, .int 2] := List.pairwise_pair.mpr (by decide +kernel)
  have hwell : (Value.int 3).WellFormed := trivial
  obtain ⟨⟨hagain, hreport⟩, ⟨hpresent, -⟩, hrow, hkeeps⟩ :=
    update_ensures hroot hwell rfl "a" (some (-2)) none
  obtain ⟨added, hadded, -, hstill⟩ := hrow _ [.int 3, .int 1, .int 3] hitems
  obtain ⟨left, -, hleft, hlength, -⟩ := hkeeps _ hitems (.inl (by decide))
  exact ⟨hroot, hanswer, hagain, hreport _ _ hitems hanswer, hpresent hanswer,
    ⟨added, hadded, hstill hdistinct⟩, left, hleft, hlength⟩

end ClusterRouter.Document
