import ClusterRouter.Proofs.Document.Modification
import ClusterRouter.Proofs.Path.Composition

/-!
# Edits undone by path

What an edit adds is taken back by another edit at the same path, or at one whose text is the same
with an index behind it: an appended item by a removal of the last one, a new entry by a removal of
its key, and a removed entry by putting back what was found there. The root is the same tree again,
not just an equal one.
-/

namespace ClusterRouter

/-- The index of the last item goes on behind every path text, the empty one and one that ends with
a separator included. -/
theorem Path.parse_append_last {text : String} {separator : Separator} {path : Path}
    (h : parse text separator = .ok path) :
    parse (text ++ "[-1]") separator = .ok (path ++ [.index (-1)]) := by
  have hdigits : Text.ofInt64 (-1) = ['-', '1'] := by decide
  have htext : indexed text (-1) = text ++ "[-1]" := by
    rw [← String.toList_inj]
    simp [indexed, hdigits]
  rw [← htext, parse_indexed h]

namespace Value

/-- A change is taken back at the same path by every other that makes the old value of the new. -/
theorem exists_modify?_back {f : Value → Option Value} {root old new : Value} {path : Path}
    (hwell : root.WellFormed) (hold : root.lookup path = some old) (hf : f old = some new) :
    ∃ after, root.modify? f path = some after ∧ after.lookup path = some new ∧
      ∀ g : Value → Option Value, g new = some old → after.modify? g path = some root := by
  have hnew : (root.modify (fun _ ↦ new) path).lookup path = some new := by
    rw [lookup_modify, hold, Option.map_some]
  refine ⟨root.modify (fun _ ↦ new) path, ?_, hnew, fun g hg ↦ ?_⟩
  · rw [modify?_of_lookup hold, hf, Option.map_some]
  · rw [modify?_of_lookup hnew, hg, Option.map_some, modify_modify, modify_eq_self hwell]
    intro found hfound
    exact Option.some.inj (hold.symm.trans hfound)

theorem exists_map_of_lookup_key {root value : Value} {parent : Path} {name : String}
    (h : root.lookup (parent ++ [.key name]) = some value) :
    ∃ fields, root.lookup parent = some (.map fields) ∧ Fields.get? fields name = some value := by
  rw [lookup_append, Option.bind_eq_some_iff] at h
  obtain ⟨found, hparent, hlast⟩ := h
  obtain ⟨child, hchild, hend⟩ := exists_of_lookup_cons hlast
  cases (lookup_nil child).symm.trans hend
  cases found <;> try contradiction
  exact ⟨_, hparent, hchild⟩

theorem removeStep?_insert {fields : Fields} {name : String}
    (hfree : Fields.get? fields name = none) (item : Value) :
    (map (Fields.insert fields name item)).removeStep? (.key name) = some (.map fields) := by
  rw [removeStep?, Fields.contains, Fields.get?_insert_self, Option.isSome_some, if_pos rfl,
    Fields.erase_insert hfree]

theorem removeStep?_key {fields : Fields} {name : String} {value : Value}
    (hentry : Fields.get? fields name = some value) :
    (map fields).removeStep? (.key name) = some (.map (Fields.erase fields name)) := by
  rw [removeStep?, Fields.contains, hentry, Option.isSome_some, if_pos rfl]

theorem eraseIdx_last (items : List Value) (item : Value) :
    (items ++ [item]).eraseIdx items.length = items := by
  rw [List.eraseIdx_append_of_length_le le_rfl, Nat.sub_self, List.eraseIdx_cons_zero,
    List.append_nil]

theorem removeStep?_last {items : List Value}
    (hlength : (items.length + 1 : Int) ≤ Int64.maxValue.toInt) (item : Value) :
    (list (items ++ [item])).removeStep? (.index (-1)) = some (.list items) := by
  rw [removeStep?, List.length_append, List.length_singleton, resolveIndex_last hlength,
    Option.map_some, eraseIdx_last]

theorem positionOf?_last {items : List Value} {item : Value} (hitem : item.hasNaN = false)
    (hnew : ∀ old ∈ items, (old == item) = false) :
    positionOf? (items ++ [item]) item = some items.length := by
  have hnone : positionOf? items item = none := List.findIdx?_eq_none_iff.mpr hnew
  have hlast : positionOf? [item] item = some 0 := by
    rw [positionOf?, List.findIdx?_cons, beq_self hitem, if_pos rfl]
  unfold positionOf? at hnone hlast ⊢
  rw [List.findIdx?_append, hnone, hlast]
  simp

end Value

namespace Document

section

variable {document : Document} {text : String} {path parent : Path} {name : String}

theorem parsePath_append_last (hpath : document.parsePath text = .ok path) :
    document.parsePath (text ++ "[-1]") = .ok (path ++ [.index (-1)]) := by
  unfold parsePath at hpath ⊢
  cases hparse : Path.parse text document.separator with
  | error e =>
    rw [hparse] at hpath
    contradiction
  | ok found =>
    rw [hparse] at hpath
    cases hpath
    rw [Path.parse_append_last hparse]
    rfl

theorem append_run_of_list (hpath : document.parsePath text = .ok path) {items : List Value}
    (hitems : document.root.lookup path = some (.list items)) (item : Value) :
    (append text item).run document =
      concluded document (.ok (document.root.modify? (pushTo item) path)) := by
  rw [append_run, changeAt_of_parsePath hpath, appendChange, withList, hitems]

theorem remove_run_of_concat {last : Segment}
    (hpath : document.parsePath text = .ok (parent ++ [last])) :
    (remove text).run document =
      concluded document (.ok (document.root.modify? (Value.removeStep? · last) parent)) := by
  rw [remove_run, changeAt_of_parsePath hpath, removeChange_concat]

theorem put_run_of_free (hpath : document.parsePath text = .ok (parent ++ [.key name]))
    {fields : Fields} (hparent : document.root.lookup parent = some (.map fields))
    (hfree : Fields.get? fields name = none) (value : Value) :
    (put text value).run document =
      concluded document (.ok (document.root.modify? (·.create? [.key name] value) parent)) := by
  have hmissing : document.root.lookup (parent ++ [.key name]) = none := by
    rw [Value.lookup_append, hparent, Option.bind_some, Value.lookup_cons, Value.child?, hfree,
      Option.bind_none]
  rw [put_run, changeAt_of_parsePath hpath, putChange, hmissing, Value.create?_append hparent rfl]
  rfl

theorem popFrom_last {items : List Value} {item : Value} (hitem : item.hasNaN = false)
    (hnew : ∀ old ∈ items, (old == item) = false) :
    popFrom item (.list (items ++ [item])) = some (.list items) := by
  rw [popFrom, Value.positionOf?_last hitem hnew, Option.map_some, Value.eraseIdx_last]

/-- An item that was appended to a list is found as the last one and taken back by a removal of the
last one, and, where it is equal to none of the others, by popping it. A list whose places cannot be
counted by an index has no last one. -/
theorem append_undone (hwell : document.root.WellFormed)
    (hpath : document.parsePath text = .ok path) {items : List Value}
    (hitems : document.root.lookup path = some (.list items)) (item : Value) :
    ∃ root, (append text item).run document = .ok true { document with root } ∧
      root.lookup path = some (.list (items ++ [item])) ∧
      ((items.length + 1 : Int) ≤ Int64.maxValue.toInt →
        root.lookup (path ++ [.index (-1)]) = some item ∧
          (remove (text ++ "[-1]")).run { document with root } = .ok true document) ∧
      (item.hasNaN = false → (∀ old ∈ items, (old == item) = false) →
        (pop text item).run { document with root } = .ok true document) := by
  obtain ⟨root, hroot, hfound, hback⟩ :=
    Value.exists_modify?_back (f := pushTo item) hwell hitems rfl
  refine ⟨root, ?_, hfound, fun hlength ↦ ⟨?_, ?_⟩, fun hitem hnew ↦ ?_⟩
  · rw [append_run_of_list hpath hitems, hroot]
    rfl
  · refine Value.lookup_item_iff.mpr ⟨items ++ [item], items.length, item, hfound, ?_, ?_, ?_⟩
    · rw [List.length_append, List.length_singleton, resolveIndex_last hlength]
    · rw [List.getElem?_concat_length]
    · rw [Value.lookup_nil]
  · have hlast : parsePath { document with root } (text ++ "[-1]") = .ok (path ++ [.index (-1)]) :=
      parsePath_append_last hpath
    rw [remove_run_of_concat hlast, hback _ (Value.removeStep?_last hlength item)]
    rfl
  · have hagain : parsePath { document with root } text = .ok path := hpath
    rw [pop_run, changeAt_of_parsePath hagain, popChange, hback _ (popFrom_last hitem hnew)]
    rfl

/-- A new entry is taken back by a removal of its key. -/
theorem put_undone (hwell : document.root.WellFormed)
    (hpath : document.parsePath text = .ok (parent ++ [.key name])) {fields : Fields}
    (hparent : document.root.lookup parent = some (.map fields))
    (hfree : Fields.get? fields name = none) (value : Value) :
    ∃ root, (put text value).run document = .ok true { document with root } ∧
      (remove text).run { document with root } = .ok true document := by
  obtain ⟨root, hroot, -, hback⟩ :=
    Value.exists_modify?_back (f := (·.create? [.key name] value)) hwell hparent
      (Value.create?_key fields name value)
  have hagain : parsePath { document with root } text = .ok (parent ++ [.key name]) := hpath
  refine ⟨root, ?_, ?_⟩
  · rw [put_run_of_free hpath hparent hfree, hroot]
    rfl
  · rw [remove_run_of_concat hagain, hback _ (Value.removeStep?_insert hfree value)]
    rfl

/-- A removed entry is put back by a put of what was found there. -/
theorem remove_undone (hwell : document.root.WellFormed)
    (hpath : document.parsePath text = .ok (parent ++ [.key name])) {value : Value}
    (hfound : document.root.lookup (parent ++ [.key name]) = some value) :
    ∃ root, (remove text).run document = .ok true { document with root } ∧
      (put text value).run { document with root } = .ok true document := by
  obtain ⟨fields, hparent, hentry⟩ := Value.exists_map_of_lookup_key hfound
  have hformed : Fields.Ascending fields := (Value.wellFormed_of_lookup hwell hparent).1
  obtain ⟨root, hroot, hleft, hback⟩ :=
    Value.exists_modify?_back (f := (Value.removeStep? · (.key name))) hwell hparent
      (Value.removeStep?_key hentry)
  have hput : (Value.map (Fields.erase fields name)).create? [.key name] value =
      some (.map fields) := by
    rw [Value.create?_key, Fields.insert_erase hformed hentry]
  have hagain : parsePath { document with root } text = .ok (parent ++ [.key name]) := hpath
  refine ⟨root, ?_, ?_⟩
  · rw [remove_run_of_concat hpath, hroot]
    rfl
  · rw [put_run_of_free hagain hleft (Fields.get?_erase_self hformed name), hback _ hput]
    rfl

end

/-- Additions and removals are undone by path, and the root is the tree that it was. An appended item
is the last one where an index can count to it, as in every list that memory holds. -/
theorem edits_undone {document : Document} (hwell : document.root.WellFormed) (text : String) :
    (∀ items item, document.lookup text = .ok (some (.list items)) →
      ∃ after, (append text item).run document = .ok true after ∧
        after.lookup text = .ok (some (.list (items ++ [item]))) ∧
        ((items.length + 1 : Int) ≤ Int64.maxValue.toInt →
          after.lookup (text ++ "[-1]") = .ok (some item) ∧
            (remove (text ++ "[-1]")).run after = .ok true document) ∧
        (item.hasNaN = false → (∀ old ∈ items, (old == item) = false) →
          (pop text item).run after = .ok true document)) ∧
      (∀ parent name fields value, document.parsePath text = .ok (parent ++ [.key name]) →
        document.root.lookup parent = some (.map fields) → Fields.get? fields name = none →
          ∃ after, (put text value).run document = .ok true after ∧
            (remove text).run after = .ok true document) ∧
      ∀ parent name value, document.parsePath text = .ok (parent ++ [.key name]) →
        document.lookup text = .ok (some value) →
          ∃ after, (remove text).run document = .ok true after ∧
            (put text value).run after = .ok true document := by
  refine ⟨fun items item hlookup ↦ ?_, fun parent name fields value hpath hparent hfree ↦ ?_,
    fun parent name value hpath hlookup ↦ ?_⟩
  · obtain ⟨path, hpath, hitems⟩ := exists_path_of_lookup hlookup
    obtain ⟨root, hrun, hfound, hlast, hpop⟩ := append_undone hwell hpath hitems item
    have hagain : parsePath { document with root } text = .ok path := hpath
    refine ⟨{ document with root }, hrun, ?_, fun hlength ↦ ⟨?_, (hlast hlength).2⟩, hpop⟩
    · rw [lookup_of_parsePath hagain, hfound]
    · rw [lookup_of_parsePath (parsePath_append_last hagain), (hlast hlength).1]
  · obtain ⟨root, hput, hremove⟩ := put_undone hwell hpath hparent hfree value
    exact ⟨_, hput, hremove⟩
  · rw [lookup_of_parsePath hpath] at hlookup
    obtain ⟨root, hremove, hput⟩ := remove_undone hwell hpath (Except.ok.inj hlookup)
    exact ⟨_, hremove, hput⟩

/-- An item behind a path that ends with a separator, a new key, and a null entry. -/
theorem edits_undone_in_small_document :
    let document : Document :=
      { root := .map [("a", .map [("items", .list [.int 1])]), ("b", .null)] }
    document.root.WellFormed ∧
      (∃ after, (append "a.items." (.int 2)).run document = .ok true after ∧
        after.lookup "a.items.[-1]" = .ok (some (.int 2)) ∧
        (remove "a.items.[-1]").run after = .ok true document ∧
        (pop "a.items." (.int 2)).run after = .ok true document) ∧
      (∃ after, (put "a.k" (.int 5)).run document = .ok true after ∧
        (remove "a.k").run after = .ok true document) ∧
      ∃ after, (remove "b").run document = .ok true after ∧
        (put "b" .null).run after = .ok true document := by
  intro document
  have hwell : document.root.WellFormed :=
    ⟨by decide, ⟨⟨by decide, ⟨trivial, trivial⟩, trivial⟩, trivial, trivial⟩⟩
  have hitems : Path.parse "a.items." .dot = .ok [.key "a", .key "items"] := by decide +kernel
  have hfree : Path.parse "a.k" .dot = .ok ([.key "a"] ++ [.key "k"]) := by decide +kernel
  have hnull : Path.parse "b" .dot = .ok ([] ++ [.key "b"]) := by decide +kernel
  have hparsed {text : String} {path : Path} (h : Path.parse text .dot = .ok path) :
      document.parsePath text = .ok path := congrArg (Except.mapError DocumentError.path) h
  have hlist : document.lookup "a.items." = .ok (some (.list [.int 1])) :=
    lookup_of_parsePath (hparsed hitems)
  have hentry : document.lookup "b" = .ok (some .null) := lookup_of_parsePath (hparsed hnull)
  obtain ⟨after, happend, -, hlast, hpop⟩ := (edits_undone hwell "a.items.").1 _ (.int 2) hlist
  obtain ⟨hfound, hremove⟩ := hlast (by decide)
  refine ⟨hwell, ⟨after, happend, hfound, hremove, hpop rfl (by decide +kernel)⟩, ?_, ?_⟩
  · exact (edits_undone hwell "a.k").2.1 _ "k" _ (.int 5) (hparsed hfree) rfl rfl
  · exact (edits_undone hwell "b").2.2 _ "b" .null (hparsed hnull) hentry

end Document

end ClusterRouter
