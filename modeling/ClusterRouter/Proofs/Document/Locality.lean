import ClusterRouter.Proofs.Document.Reaction

/-!
# Edits are local

Two paths are apart when neither goes on where the other one ends and the first steps in which they
differ lead to different places: to other keys, to a key and an index, or to other items of one
list. Every edit but a removal puts something at its own path, which makes nothing but maps on the
way and keeps the length of every list. So what is found at a path apart from it is found again,
and where nothing was found nothing is.
-/

namespace ClusterRouter

namespace Value

/-- Two steps from one place lead to different places. Indices do so unless they mean one item of
the list that is there. -/
def StepsApart (found : Option Value) : Segment → Segment → Prop
  | .key name, .key other => name ≠ other
  | .index i, .index j =>
    i ≠ j ∧ ∀ items place, found = some (.list items) →
      resolveIndex i items.length = some place → resolveIndex j items.length ≠ some place
  | _, _ => True

/-- Two paths that lead to different places behind what they have in common. -/
inductive Apart (root : Value) : Path → Path → Prop where
  | behind {common path other : Path} {step next : Segment}
      (hsteps : StepsApart (root.lookup common) step next) :
      Apart root (common ++ step :: path) (common ++ next :: other)

/-- Steps that are apart in what is found are so where only fewer lists are found. -/
theorem StepsApart.of_lists {found fewer : Option Value} {step next : Segment}
    (h : StepsApart found step next)
    (hlists : ∀ items, fewer = some (.list items) → found = some (.list items)) :
    StepsApart fewer step next := by
  cases step <;> cases next <;> try exact h
  case index.index i j =>
    refine ⟨h.1, ?_⟩
    intro items place hitems
    exact h.2 items place (hlists items hitems)

/-- Putting something where one step leads leaves what the other one leads to. -/
theorem child?_setChild_of_apart {value : Value} {step next : Segment}
    (h : StepsApart (some value) step next) (new : Value) :
    (value.setChild step new).child? next = value.child? next := by
  cases value <;> cases step <;> cases next <;> try rfl
  case map.key.key fields name other => exact Fields.get?_insert_of_ne (Ne.symm h) fields new
  case list.index.index items i j =>
    cases hplace : resolveIndex i items.length with
    | none => rw [setChild, hplace, Option.elim_none]
    | some place =>
      have hother : resolveIndex j items.length ≠ some place := h.2 items place rfl hplace
      rw [setChild, hplace, Option.elim_some, child?, child?, List.length_set]
      cases hj : resolveIndex j items.length with
      | none => rfl
      | some otherPlace =>
        have hne : place ≠ otherPlace := by
          intro heq
          exact hother (by rw [hj, heq])
        exact List.getElem?_set_ne hne

/-- Steps that are apart stay so on the way that is created, where no list is made. -/
theorem StepsApart.childOrMap? {root child : Value} {segment step next : Segment} {path : Path}
    (h : StepsApart (root.lookup (segment :: path)) step next)
    (hchild : root.childOrMap? segment = some child) :
    StepsApart (child.lookup path) step next := by
  apply h.of_lists
  intro items hitems
  by_cases hpath : path = []
  · rw [hpath, lookup_nil] at hitems
    rcases childOrMap?_cases hchild with hfound | ⟨rfl, -⟩
    · rw [hpath, lookup_cons, hfound, Option.bind_some, lookup_nil, hitems]
    · cases hitems
  · rw [← lookup_childOrMap? hchild hpath, hitems]

/-- What is put at a path is not seen from a path apart from it. -/
theorem lookup_create?_of_apart {root after item : Value} {path other : Path}
    (hapart : root.Apart path other) (hafter : root.create? path item = some after) :
    after.lookup other = root.lookup other := by
  obtain @⟨common, path, other, step, next, hsteps⟩ := hapart
  induction common generalizing root after with
  | nil =>
    obtain ⟨child, changed, -, -, rfl⟩ := exists_of_create?_cons hafter
    rw [lookup_nil] at hsteps
    rw [List.nil_append, lookup_cons, lookup_cons, child?_setChild_of_apart hsteps]
  | cons segment common ih =>
    obtain ⟨child, changed, hchild, hchanged, rfl⟩ := exists_of_create?_cons hafter
    have hne : common ++ next :: other ≠ [] := by simp
    calc (root.setChild segment changed).lookup (segment :: (common ++ next :: other))
        = changed.lookup (common ++ next :: other) :=
          lookup_setChild_cons (Option.isSome_of_mem hchild) changed _
      _ = child.lookup (common ++ next :: other) := ih (hsteps.childOrMap? hchild) hchanged
      _ = root.lookup (segment :: (common ++ next :: other)) := lookup_childOrMap? hchild hne

/-- What may become of what is found above a place where something is put: a map gets or changes an
entry, a list keeps its length, and a map is made where nothing or null was. -/
inductive Widened : Option Value → Option Value → Prop where
  | same (found : Option Value) : Widened found found
  | map (fields changed : Fields) : Widened (some (.map fields)) (some (.map changed))
  | list {items changed : List Value} (hlength : changed.length = items.length) :
      Widened (some (.list items)) (some (.list changed))
  | made {found : Option Value} (hfree : found = none ∨ found = some .null) (fields : Fields) :
      Widened found (some (.map fields))

theorem widened_setChild {value child : Value} {segment : Segment}
    (hchild : value.childOrMap? segment = some child) (new : Value) :
    Widened (some value) (some (value.setChild segment new)) := by
  cases value <;> cases segment <;> try contradiction
  case map.key fields name => exact .map fields (Fields.insert fields name new)
  case list.index items i =>
    obtain ⟨place, hplace, -⟩ := Option.bind_eq_some_iff.mp hchild
    rw [setChild_index hplace]
    exact .list List.length_set

theorem widened_of_create? {root after item : Value} {front path : Path} {step : Segment}
    (hafter : root.create? (front ++ step :: path) item = some after) :
    Widened (root.lookup front) (after.lookup front) := by
  induction front generalizing root after with
  | nil =>
    obtain ⟨child, changed, hchild, -, rfl⟩ := exists_of_create?_cons hafter
    rw [lookup_nil, lookup_nil]
    exact widened_setChild hchild changed
  | cons segment front ih =>
    obtain ⟨child, changed, hchild, hchanged, rfl⟩ := exists_of_create?_cons hafter
    have hbelow := ih hchanged
    rw [lookup_setChild_cons (Option.isSome_of_mem hchild)]
    by_cases hfront : front = []
    · -- the child is the one that is found, or a map in the place of nothing or null
      subst hfront
      rw [lookup_nil, lookup_nil] at hbelow
      rw [lookup_nil, lookup_cons]
      rcases childOrMap?_cases hchild with hfound | ⟨rfl, hfree⟩
      · rwa [hfound, Option.bind_some, lookup_nil]
      · obtain ⟨fields, rfl⟩ : ∃ fields, changed = .map fields := by
          cases hbelow with
          | same => exact ⟨[], rfl⟩
          | map fields changed => exact ⟨changed, rfl⟩
          | made _ fields => exact ⟨fields, rfl⟩
        refine .made ?_ fields
        rcases hfree with hmissing | hnull
        · exact .inl (by rw [hmissing, Option.bind_none])
        · exact .inr (by rw [hnull, Option.bind_some, lookup_nil])
    · rwa [← lookup_childOrMap? hchild hfront]

end Value

namespace Document

/-- Nothing changes but what is at a path. Above it a map may be made where nothing or null was. -/
structure OnlyAt (base : Path) (document after : Document) : Prop where
  state : after = { document with root := after.root }
  apart : ∀ other, document.root.Apart base other →
    after.root.lookup other = document.root.lookup other
  above : ∀ front step path, base = front ++ step :: path →
    Value.Widened (document.root.lookup front) (after.root.lookup front)

theorem OnlyAt.refl (base : Path) (document : Document) : OnlyAt base document document where
  state := rfl
  apart _ _ := rfl
  above _ _ _ _ := .same _

theorem onlyAt_of_create? {document : Document} {base : Path} {item root : Value}
    (h : document.root.create? base item = some root) :
    OnlyAt base document { document with root } where
  state := rfl
  apart _ hapart := Value.lookup_create?_of_apart hapart h
  above _ _ _ hbase := Value.widened_of_create? (hbase ▸ h)

namespace Operation

/-- The text of the path at which an edit works. -/
def text : Operation → String
  | put text _ | create _ text _ | append text _ | update text _ _ _ | remove text | pop text _ =>
    text
  | apply edit => edit.key

/-- An edit that leaves all else in its place. A removal moves the items behind the removed one. -/
def KeepsPlaces : Operation → Prop
  | remove _ => False
  | _ => True

/-- The document that an edit leaves behind, however it ends. -/
def after (operation : Operation) (document : Document) : Document :=
  match operation.perform.run document with
  | .ok _ left | .error _ left => left

/-- What an edit reports, or the error with which it fails. -/
def answer (operation : Operation) (document : Document) : Except DocumentError Bool :=
  match operation.perform.run document with
  | .ok changed _ => .ok changed
  | .error e _ => .error e

/-- An edit reports a change where it has a new root. -/
theorem answer_eq (operation : Operation) (document : Document) :
    operation.answer document = (operation.change document).map Option.isSome := by
  unfold answer
  rw [perform_run]
  rcases operation.change document with e | _ | root <;> rfl

theorem after_of_change {operation : Operation} {document : Document} {root : Value}
    (h : operation.change document = .ok (some root)) :
    operation.after document = { document with root } := by
  unfold after
  rw [perform_run, h]
  rfl

theorem after_of_answer_ne {operation : Operation} {document : Document}
    (h : operation.answer document ≠ .ok true) : operation.after document = document := by
  rw [answer_eq] at h
  unfold after
  rw [perform_run]
  rcases hchange : operation.change document with e | _ | root
  · rfl
  · rfl
  · rw [hchange] at h
    contradiction

theorem exists_change_of_answer {operation : Operation} {document : Document}
    (h : operation.answer document = .ok true) :
    ∃ root, operation.change document = .ok (some root) := by
  rw [answer_eq] at h
  rcases hchange : operation.change document with e | _ | root
  · rw [hchange] at h
    contradiction
  · rw [hchange] at h
    cases h
  · exact ⟨root, rfl⟩

theorem after_cases (operation : Operation) (document : Document) :
    operation.after document = document ∨
      ∃ root, operation.change document = .ok (some root) ∧
        operation.after document = { document with root } := by
  unfold after
  rw [perform_run]
  cases operation.change document with
  | error e => exact .inl rfl
  | ok root => cases root with
    | none => exact .inl rfl
    | some root => exact .inr ⟨root, rfl, rfl⟩

/-- A new root comes about by putting something at the path of the edit. -/
theorem exists_create?_of_change {operation : Operation} {document : Document} {path : Path}
    {root : Value} (hkeeps : operation.KeepsPlaces)
    (hpath : document.parsePath operation.text = .ok path)
    (h : operation.change document = .ok (some root)) :
    ∃ item, document.root.create? path item = some root := by
  have hputs {reaction : Reaction} {change : Change} (hchange : change = reaction.change)
      (h : document.changeAt operation.text change = .ok (some root)) :
      ∃ item, document.root.create? path item = some root := by
    rw [changeAt_of_parsePath hpath, hchange] at h
    obtain ⟨item, -, hcreate⟩ := Reaction.exists_of_change h
    exact ⟨item, hcreate⟩
  cases operation with
  | put text value => exact hputs (putChange_eq value) h
  | create files text value =>
    rw [change] at h
    split at h
    · cases h
    · exact hputs (putChange_eq value) h
  | append text item => exact hputs (appendChange_eq item) h
  | update text value index current => exact hputs (updateChange_eq text value index current) h
  | remove text => contradiction
  | pop text wanted => exact hputs (popChange_eq wanted) h
  | apply edit =>
    rw [change_apply hpath] at h
    obtain ⟨item, -, hcreate⟩ := Reaction.exists_of_change h
    exact ⟨item, hcreate⟩

end Operation

/-- However an edit ends, what was found at a path apart from its own is found there, and where
nothing was found nothing is. -/
theorem lookup_after_of_apart {operation : Operation} (hkeeps : operation.KeepsPlaces)
    {document : Document} {path other : Path}
    (hpath : document.parsePath operation.text = .ok path)
    (hapart : document.root.Apart path other) :
    (operation.after document).root.lookup other = document.root.lookup other ∧
      ∀ text, document.parsePath text = .ok other →
        (operation.after document).lookup text = document.lookup text := by
  rcases operation.after_cases document with hsame | ⟨root, hchange, hafter⟩
  · rw [hsame]
    exact ⟨rfl, fun _ _ ↦ rfl⟩
  · obtain ⟨item, hcreate⟩ := Operation.exists_create?_of_change hkeeps hpath hchange
    have hlookup : root.lookup other = document.root.lookup other :=
      Value.lookup_create?_of_apart hapart hcreate
    rw [hafter]
    refine ⟨hlookup, ?_⟩
    intro text htext
    have hsame : parsePath { document with root } text = .ok other := htext
    rw [lookup_of_parsePath hsame, lookup_of_parsePath htext, hlookup]

/-- An append makes a list of a null item, and the item behind it stays. -/
theorem lookup_after_of_apart_items :
    let document : Document :=
      { root := .map [("a", .map [("items", .list [.null, .int 2])])] }
    let appended : Operation := .append "a.items[0]" (.int 7)
    appended.KeepsPlaces ∧
      document.parsePath appended.text = .ok [.key "a", .key "items", .index 0] ∧
      document.root.Apart [.key "a", .key "items", .index 0]
        [.key "a", .key "items", .index (-1)] ∧
      (appended.after document).root = .map [("a", .map [("items", .list [.list [.int 7], .int 2])])] ∧
      (appended.after document).lookup "a.items[-1]" = .ok (some (.int 2)) := by
  intro document appended
  have hpath : Path.parse "a.items[0]" .dot = .ok [.key "a", .key "items", .index 0] := by
    decide +kernel
  have hother : Path.parse "a.items[-1]" .dot = .ok [.key "a", .key "items", .index (-1)] := by
    decide +kernel
  have hparsed : document.parsePath appended.text = .ok [.key "a", .key "items", .index 0] := by
    rw [parsePath]
    exact congrArg (Except.mapError DocumentError.path) hpath
  have hotherParsed : document.parsePath "a.items[-1]" =
      .ok [.key "a", .key "items", .index (-1)] := by
    rw [parsePath]
    exact congrArg (Except.mapError DocumentError.path) hother
  have hsteps : Value.StepsApart (document.root.lookup [.key "a", .key "items"])
      (.index 0) (.index (-1)) := by
    refine ⟨by decide, ?_⟩
    intro items place hitems hplace
    cases hitems
    cases hplace
    decide
  have hapart : document.root.Apart [.key "a", .key "items", .index 0]
      [.key "a", .key "items", .index (-1)] := Value.Apart.behind hsteps
  have hkeeps : appended.KeepsPlaces := trivial
  have hlookup := (lookup_after_of_apart hkeeps hparsed hapart).2 "a.items[-1]" hotherParsed
  refine ⟨hkeeps, hparsed, hapart, ?_, ?_⟩
  · have hchange : appended.change document =
        .ok (some (.map [("a", .map [("items", .list [.list [.int 7], .int 2])])])) :=
      changeAt_of_parsePath hparsed (appendChange (.int 7))
    rw [Operation.after, Operation.perform_run, hchange]
    rfl
  · rw [hlookup, lookup_of_parsePath hotherParsed]
    rfl

end Document

end ClusterRouter
