import ClusterRouter.Proofs.Document.Editing

/-!
# Where a put succeeds

A value that is not there yet can be put exactly where `Value.Creatable` says: at the root, at an
item that a list has, under a key of a map, or at the end of a row of keys of which the first one is
missing or null. Such a row becomes a chain of maps. On its way a put goes through no scalar and no
null item, and every list that it goes through keeps its length.
-/

namespace ClusterRouter

namespace Value

variable {root after item : Value}

/-- A row of keys that starts at a missing or null entry becomes a chain of maps under that key. -/
theorem lookup_create?_chain {parent : Path} {fields : Fields} {name : String} {keys : List String}
    (hparent : root.lookup parent = some (.map fields))
    (hfree : Fields.get? fields name = none ∨ Fields.get? fields name = some .null)
    (h : root.create? (parent ++ .key name :: keys.map .key) item = some after) :
    after.lookup (parent ++ [.key name]) = some (chain keys item) := by
  rw [create?_append hparent rfl] at h
  obtain ⟨old, new, hold, hnew, hafter⟩ := exists_of_modify? h
  cases hparent.symm.trans hold
  obtain ⟨child, changed, hchild, hchanged, rfl⟩ := exists_of_create?_cons hnew
  cases (childOrMap?_of_free hfree).symm.trans hchild
  cases (create?_keys keys item).symm.trans hchanged
  rw [lookup_append, hafter, Option.bind_some, lookup_setChild_cons (Option.isSome_of_mem hchild),
    lookup_nil]

/-- What is at a place that a put goes through: no scalar, no item that is null, and where a list
is, one of the same length afterwards. -/
structure Passed (before after : Value) (front : Path) : Prop where
  noScalar : ∀ found, before.lookup front = some found → found.isContainer = true ∨ found = .null
  noNullItem : ∀ list i, front = list ++ [.index i] → before.lookup front ≠ some .null
  sameLength : ∀ items, before.lookup front = some (.list items) →
    ∃ changed, after.lookup front = some (.list changed) ∧ changed.length = items.length

theorem passed_of_create? {front rest : Path} {step : Segment}
    (h : root.create? (front ++ step :: rest) item = some after) : Passed root after front where
  noScalar found hfound := by
    by_cases hnull : found.isNull
    · exact .inr (eq_null_of_isNull hnull)
    have hbelow : (found.create? (step :: rest) item).isSome := by
      rw [← modify?_isSome (f := fun v ↦ v.create? (step :: rest) item) hfound,
        ← create?_append hfound (by simpa using hnull), h, Option.isSome_some]
    left
    cases found <;> first | rfl | (cases step <;> contradiction)
  noNullItem list i hfront hnull := by
    subst hfront
    -- The list is not null, so what is created below it is created below its item.
    rw [lookup_append, Option.bind_eq_some_iff] at hnull
    obtain ⟨value, hvalue, hitem⟩ := hnull
    obtain ⟨child, hchild, hend⟩ := exists_of_lookup_cons hitem
    cases (lookup_nil child).symm.trans hend
    obtain ⟨items, rfl⟩ : ∃ items, value = .list items := by
      cases value <;> first | exact ⟨_, rfl⟩ | contradiction
    rw [List.append_assoc, create?_append hvalue rfl] at h
    obtain ⟨old, new, hold, hnew, -⟩ := exists_of_modify? h
    cases hvalue.symm.trans hold
    obtain ⟨below, changed, hbelow, hchanged, -⟩ := exists_of_create?_cons hnew
    cases Option.some.inj (hbelow.symm.trans hchild)
    cases step <;> contradiction
  sameLength items hitems := by
    rw [create?_append hitems rfl] at h
    obtain ⟨old, new, hold, hnew, hafter⟩ := exists_of_modify? h
    cases hitems.symm.trans hold
    obtain ⟨child, changed, hchild, -, rfl⟩ := exists_of_create?_cons hnew
    cases step with
    | key => contradiction
    | index i =>
      obtain ⟨place, hplace, -⟩ := Option.bind_eq_some_iff.mp hchild
      rw [setChild_index hplace] at hafter
      exact ⟨_, hafter, List.length_set⟩

end Value

namespace Document

/-- A put of what is not there yet reports a change exactly where its path can be created. -/
theorem put_iff_creatable {document : Document} {text : String} {value : Value} {path : Path}
    (hpath : document.parsePath text = .ok path)
    (hnew : (document.root.lookup path == some value) = false) :
    ∃ reported after, (put text value).run document = .ok reported after ∧
      (reported = true ↔ document.root.Creatable path) ∧
      (∀ parent fields name keys, path = parent ++ .key name :: keys.map .key →
        document.root.lookup parent = some (.map fields) →
        Fields.get? fields name = none ∨ Fields.get? fields name = some .null →
          after.root.lookup (parent ++ [.key name]) = some (Value.chain keys value)) ∧
      (reported = true → ∀ front step rest, path = front ++ step :: rest →
        Value.Passed document.root after.root front) := by
  by_cases hcreatable : document.root.Creatable path
  · obtain ⟨root, hroot⟩ := Option.isSome_iff_exists.mp (hcreatable.create?_isSome value)
    refine ⟨true, { document with root }, ?_, iff_of_true rfl hcreatable, ?_, ?_⟩
    · rw [put_run, changeAt_of_parsePath hpath, putChange, hnew, if_neg Bool.false_ne_true, hroot]
      rfl
    · rintro parent fields name keys rfl hparent hfree
      exact Value.lookup_create?_chain hparent hfree hroot
    · rintro - front step rest rfl
      exact Value.passed_of_create? hroot
  · refine ⟨false, document, put_run_of_not_creatable hpath hcreatable,
      iff_of_false Bool.false_ne_true hcreatable, ?_, ?_⟩
    · rintro parent fields name keys rfl hparent hfree
      exact absurd (.chain hparent hfree) hcreatable
    · intro hnot
      contradiction

/-- A null entry becomes a chain below an item that an index counted from the end leads to. -/
theorem put_iff_creatable_below_null :
    let document : Document := { root := .map [("items", .list [.int 1, .map [("k", .null)]])] }
    let path : Path := [.key "items", .index (-1), .key "k", .key "b", .key "c"]
    document.parsePath "items[-1].k.b.c" = .ok path ∧
      (document.root.lookup path == some (.int 5)) = false ∧
      ∃ after, (put "items[-1].k.b.c" (.int 5)).run document = .ok true after ∧
        after.root.lookup [.key "items", .index (-1), .key "k"] =
          some (.map [("b", .map [("c", .int 5)])]) ∧
        Value.Passed document.root after.root [.key "items"] := by
  intro document path
  have hparse : Path.parse "items[-1].k.b.c" .dot = .ok path := by decide +kernel
  have hpath : document.parsePath "items[-1].k.b.c" = .ok path :=
    congrArg (Except.mapError DocumentError.path) hparse
  have hnew : (document.root.lookup path == some (.int 5)) = false := rfl
  have hparent : document.root.lookup [.key "items", .index (-1)] = some (.map [("k", .null)]) := rfl
  obtain ⟨reported, after, hrun, hreported, hchain, hpassed⟩ := put_iff_creatable hpath hnew
  have hcreatable : document.root.Creatable path :=
    @Value.Creatable.chain _ [.key "items", .index (-1)] _ "k" ["b", "c"] hparent (.inr rfl)
  cases hreported.mpr hcreatable
  refine ⟨hpath, hnew, after, hrun, ?_, ?_⟩
  · exact hchain [.key "items", .index (-1)] _ "k" ["b", "c"] rfl hparent (.inr rfl)
  · exact hpassed rfl [.key "items"] _ _ rfl

end Document

end ClusterRouter
