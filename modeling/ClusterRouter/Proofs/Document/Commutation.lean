import ClusterRouter.Proofs.Document.Locality

/-!
# Independent edits commute

Two edits whose paths part at two keys of one map do not see each other, although either may create
that map and all that leads to it. Creating keeps what the other one goes through, or has made it as
the other one would. So both orders leave one document, and each edit answers alike in both.
-/

namespace ClusterRouter

namespace Value

/-! ### Two paths that part at keys of one map -/

/-- Behind a step that leads somewhere, creating goes through what was put there last. -/
theorem childOrMap?_setChild_self {value new : Value} {segment : Segment}
    (h : (value.childOrMap? segment).isSome) (hnull : new.isNull = false) :
    (value.setChild segment new).childOrMap? segment = some new := by
  apply childOrMap?_of_child? _ hnull
  exact child?_setChild_self h new

theorem isNull_setChild {value child : Value} {segment : Segment}
    (h : value.childOrMap? segment = some child) (new : Value) :
    (value.setChild segment new).isNull = false := by
  cases value <;> cases segment <;> first | rfl | contradiction

/-- Below the root, a value in which something was created is not null. -/
theorem isNull_of_create? {value after item : Value} {path : Path} (hpath : path ≠ [])
    (h : value.create? path item = some after) : after.isNull = false := by
  cases path with
  | nil => contradiction
  | cons segment path =>
    obtain ⟨child, changed, hchild, -, rfl⟩ := exists_of_create?_cons h
    exact isNull_setChild hchild changed

theorem childOrMap?_setChild_of_ne {name next : String} (h : name ≠ next) (value new : Value) :
    (value.setChild (.key name) new).childOrMap? (.key next) = value.childOrMap? (.key next) := by
  cases value <;> try rfl
  case map fields =>
    rw [setChild, childOrMap?, childOrMap?, entryOrMap, entryOrMap,
      Fields.get?_insert_of_ne h.symm]

theorem setChild_comm {name next : String} (h : name ≠ next) (value first second : Value) :
    (value.setChild (.key name) first).setChild (.key next) second =
      (value.setChild (.key next) second).setChild (.key name) first := by
  cases value <;> try rfl
  case map fields => exact congrArg map (Fields.insert_comm h fields first second)

section

variable {name next : String} {common path other : Path} {root first second item new : Value}

/-- What can be created at one of the two paths can be created there after something was put at the
other one, and what cannot be created cannot. -/
theorem create?_isSome_of_create? (hne : name ≠ next)
    (hfirst : root.create? (common ++ .key name :: path) item = some first) :
    (first.create? (common ++ .key next :: other) new).isSome =
      (root.create? (common ++ .key next :: other) new).isSome := by
  induction common generalizing root first with
  | nil =>
    obtain ⟨child, changed, -, -, rfl⟩ := exists_of_create?_cons hfirst
    simp only [List.nil_append, create?_cons, childOrMap?_setChild_of_ne hne]
    cases root.childOrMap? (.key next) <;> simp
  | cons segment common ih =>
    obtain ⟨child, changed, hchild, hchanged, rfl⟩ := exists_of_create?_cons hfirst
    have hnull : changed.isNull = false := isNull_of_create? (by simp) hchanged
    have hself := childOrMap?_setChild_self (Option.isSome_of_mem hchild) hnull
    rw [List.cons_append, create?_cons, create?_cons, hself, hchild, Option.bind_some,
      Option.bind_some, Option.isSome_map, Option.isSome_map]
    exact ih hchanged

/-- What is put at both paths is the same in either order. -/
theorem exists_create?_both (hne : name ≠ next)
    (hfirst : root.create? (common ++ .key name :: path) item = some first)
    (hsecond : root.create? (common ++ .key next :: other) new = some second) :
    ∃ both, first.create? (common ++ .key next :: other) new = some both ∧
      second.create? (common ++ .key name :: path) item = some both := by
  induction common generalizing root first second with
  | nil =>
    obtain ⟨child, changed, hchild, hchanged, rfl⟩ := exists_of_create?_cons hfirst
    obtain ⟨child', changed', hchild', hchanged', rfl⟩ := exists_of_create?_cons hsecond
    refine ⟨(root.setChild (.key name) changed).setChild (.key next) changed', ?_, ?_⟩
    · rw [List.nil_append, create?_cons, childOrMap?_setChild_of_ne hne, hchild',
        Option.bind_some, hchanged', Option.map_some]
    · rw [List.nil_append, create?_cons, childOrMap?_setChild_of_ne hne.symm, hchild,
        Option.bind_some, hchanged, Option.map_some, setChild_comm hne]
  | cons segment common ih =>
    obtain ⟨child, changed, hchild, hchanged, rfl⟩ := exists_of_create?_cons hfirst
    obtain ⟨child', changed', hchild', hchanged', rfl⟩ := exists_of_create?_cons hsecond
    cases hchild.symm.trans hchild'
    obtain ⟨both, hboth, hboth'⟩ := ih hchanged hchanged'
    have hsome : (root.childOrMap? segment).isSome := Option.isSome_of_mem hchild
    have hput {changed new : Value} {rest : Path} (hnull : changed.isNull = false)
        (h : changed.create? rest new = some both) :
        (root.setChild segment changed).create? (segment :: rest) new =
          some (root.setChild segment both) := by
      rw [create?_cons, childOrMap?_setChild_self hsome hnull, Option.bind_some, h,
        Option.map_some, setChild_setChild]
    exact ⟨root.setChild segment both, hput (isNull_of_create? (by simp) hchanged) hboth,
      hput (isNull_of_create? (by simp) hchanged') hboth'⟩

end

end Value

namespace Document

/-! ### Two edits of one document -/

section

variable {name next : String} {common path other : Path}

/-- What is found at one of the two paths stays when something is put at the other one. -/
theorem lookup_of_create? (hne : name ≠ next) {root first item : Value}
    (hfirst : root.create? (common ++ .key name :: path) item = some first) :
    first.lookup (common ++ .key next :: other) = root.lookup (common ++ .key next :: other) := by
  have hsteps : Value.StepsApart (root.lookup common) (.key name) (.key next) := hne
  exact Value.lookup_create?_of_apart (Value.Apart.behind hsteps) hfirst

theorem Reaction.isSome_change_of_create? (reaction : Reaction) (hne : name ≠ next)
    {root first item : Value}
    (hfirst : root.create? (common ++ .key name :: path) item = some first) :
    (reaction.change (common ++ .key next :: other) first).map Option.isSome =
      (reaction.change (common ++ .key next :: other) root).map Option.isSome := by
  unfold Reaction.change
  rw [lookup_of_create? hne hfirst]
  rcases reaction (root.lookup (common ++ .key next :: other)) with e | _ | new
  · rfl
  · rfl
  · exact congrArg Except.ok (Value.create?_isSome_of_create? hne hfirst)

theorem Reaction.exists_change_both {reaction answer : Reaction} (hne : name ≠ next)
    {root first second : Value}
    (hfirst : reaction.change (common ++ .key name :: path) root = .ok (some first))
    (hsecond : answer.change (common ++ .key next :: other) root = .ok (some second)) :
    ∃ both, answer.change (common ++ .key next :: other) first = .ok (some both) ∧
      reaction.change (common ++ .key name :: path) second = .ok (some both) := by
  obtain ⟨item, hitem, hcreate⟩ := exists_of_change hfirst
  obtain ⟨new, hnew, hcreate'⟩ := exists_of_change hsecond
  obtain ⟨both, hboth, hboth'⟩ := Value.exists_create?_both hne hcreate hcreate'
  refine ⟨both, ?_, ?_⟩
  · unfold Reaction.change
    rw [lookup_of_create? hne hcreate, hnew]
    exact congrArg Except.ok hboth
  · unfold Reaction.change
    rw [lookup_of_create? hne.symm hcreate', hitem]
    exact congrArg Except.ok hboth'

/-- An edit answers as it would have before an edit at a path that parts from its own. -/
theorem answer_after {document : Document} {first second : Edit} (hne : name ≠ next)
    (hfirst : document.parsePath first.key = .ok (common ++ .key name :: path))
    (hsecond : document.parsePath second.key = .ok (common ++ .key next :: other)) :
    (Operation.apply second).answer ((Operation.apply first).after document) =
      (Operation.apply second).answer document := by
  by_cases hanswer : (Operation.apply first).answer document = .ok true
  · obtain ⟨root, hchange⟩ := Operation.exists_change_of_answer hanswer
    have hparse : parsePath { document with root } second.key =
        .ok (common ++ .key next :: other) := hsecond
    have hcreate := hchange
    rw [Operation.change_apply hfirst] at hcreate
    obtain ⟨item, -, hcreate⟩ := Reaction.exists_of_change hcreate
    rw [Operation.after_of_change hchange, Operation.answer_eq, Operation.answer_eq,
      Operation.change_apply hparse, Operation.change_apply hsecond]
    exact Reaction.isSome_change_of_create? _ hne hcreate
  · rw [Operation.after_of_answer_ne hanswer]

/-- Two edits whose paths part at keys of one map leave one document in either order, and each
answers as it does without the other. -/
theorem apply_comm {document : Document} {first second : Edit} (hne : name ≠ next)
    (hfirst : document.parsePath first.key = .ok (common ++ .key name :: path))
    (hsecond : document.parsePath second.key = .ok (common ++ .key next :: other)) :
    (Operation.apply second).after ((Operation.apply first).after document) =
        (Operation.apply first).after ((Operation.apply second).after document) ∧
      (Operation.apply first).answer document =
        (Operation.apply first).answer ((Operation.apply second).after document) ∧
      (Operation.apply second).answer ((Operation.apply first).after document) =
        (Operation.apply second).answer document := by
  have hback := answer_after hne.symm hsecond hfirst
  have hforth := answer_after hne hfirst hsecond
  refine ⟨?_, hback.symm, hforth⟩
  by_cases hone : (Operation.apply first).answer document = .ok true
  · by_cases htwo : (Operation.apply second).answer document = .ok true
    · obtain ⟨root, hroot⟩ := Operation.exists_change_of_answer hone
      obtain ⟨root', hroot'⟩ := Operation.exists_change_of_answer htwo
      have hparse : parsePath { document with root := root' } first.key =
          .ok (common ++ .key name :: path) := hfirst
      have hparse' : parsePath { document with root } second.key =
          .ok (common ++ .key next :: other) := hsecond
      have hcreate := hroot
      have hcreate' := hroot'
      rw [Operation.change_apply hfirst] at hcreate
      rw [Operation.change_apply hsecond] at hcreate'
      obtain ⟨both, hboth, hboth'⟩ := Reaction.exists_change_both hne hcreate hcreate'
      have hend := (Operation.change_apply hparse').trans hboth
      have hend' := (Operation.change_apply hparse).trans hboth'
      rw [Operation.after_of_change hroot, Operation.after_of_change hroot',
        Operation.after_of_change hend, Operation.after_of_change hend']
    · rw [Operation.after_of_answer_ne htwo]
      exact Operation.after_of_answer_ne (hforth ▸ htwo)
  · rw [Operation.after_of_answer_ne hone]
    exact (Operation.after_of_answer_ne (hback ▸ hone)).symm

/-- A put and an append below a null entry, of which whichever comes first makes a map. -/
theorem apply_comm_below_null :
    let document : Document := { root := .map [("a", .null)] }
    let first : Edit := { action := .put, key := "a.x", value := .int 1 }
    let second : Edit := { action := .append, key := "a.y", value := .int 2 }
    let done : Document := { root := .map [("a", .map [("x", .int 1), ("y", .list [.int 2])])] }
    "x" ≠ "y" ∧
      document.parsePath first.key = .ok [.key "a", .key "x"] ∧
      document.parsePath second.key = .ok [.key "a", .key "y"] ∧
      (Operation.apply second).after ((Operation.apply first).after document) = done ∧
      (Operation.apply first).after ((Operation.apply second).after document) = done ∧
      (Operation.apply first).answer ((Operation.apply second).after document) = .ok true ∧
      (Operation.apply second).answer ((Operation.apply first).after document) = .ok true := by
  intro document first second done
  have hkeys : "x" ≠ "y" := by decide
  have hx : Path.parse "a.x" .dot = .ok [.key "a", .key "x"] := by decide +kernel
  have hy : Path.parse "a.y" .dot = .ok [.key "a", .key "y"] := by decide +kernel
  have hfirst (root : Value) : parsePath { root } first.key = .ok [.key "a", .key "x"] :=
    congrArg (Except.mapError DocumentError.path) hx
  have hsecond (root : Value) : parsePath { root } second.key = .ok [.key "a", .key "y"] :=
    congrArg (Except.mapError DocumentError.path) hy
  have hput : (Operation.apply first).change document =
      .ok (some (.map [("a", .map [("x", .int 1)])])) := Operation.change_apply (hfirst _)
  have hpush : (Operation.apply second).change document =
      .ok (some (.map [("a", .map [("y", .list [.int 2])])])) := Operation.change_apply (hsecond _)
  have hboth : (Operation.apply second).after ((Operation.apply first).after document) = done := by
    rw [Operation.after_of_change hput]
    exact Operation.after_of_change (Operation.change_apply (hsecond _))
  have hone : document.parsePath first.key = .ok ([.key "a"] ++ .key "x" :: []) := hfirst _
  have htwo : document.parsePath second.key = .ok ([.key "a"] ++ .key "y" :: []) := hsecond _
  obtain ⟨hsame, hanswer, hanswer'⟩ := apply_comm hkeys hone htwo
  refine ⟨hkeys, hfirst _, hsecond _, hboth, hsame.symm.trans hboth, ?_, ?_⟩
  · rw [← hanswer, Operation.answer_eq, hput]
    rfl
  · rw [hanswer', Operation.answer_eq, hpush]
    rfl

end

end Document

end ClusterRouter
