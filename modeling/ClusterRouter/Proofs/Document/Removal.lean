import ClusterRouter.Proofs.Document.Locality

/-!
# Removing an entry

A removal succeeds exactly where a lookup does, although it finds the parent first and takes the
last step by itself. It takes one entry out of a map, or one item out of a list, and the items behind
it move up. Everything that is not reached by way of the parent stays where it was: two paths go the
same way when they lead to the same entries and items, in whatever way their indices count.
-/

namespace ClusterRouter

namespace Value

/-! ### The way of a path -/

/-- An entry of a map or an item of a list. -/
inductive Place where
  | entry (name : String)
  | item (place : Nat)
deriving DecidableEq

/-- The entry or the item that one step leads to. -/
def place? : Value → Segment → Option Place
  | .map fields, .key name => (Fields.get? fields name).map fun _ ↦ .entry name
  | .list items, .index i => (resolveIndex i items.length).map .item
  | _, _ => none

/-- The entries and items that a path leads to one after the other, if each step leads somewhere. -/
def trail? : Value → Path → Option (List Place)
  | _, [] => some []
  | value, segment :: path =>
    (value.place? segment).bind fun place ↦
      ((value.child? segment).bind (trail? · path)).map (place :: ·)

variable {value child : Value} {step next segment : Segment} {place : Place}

theorem exists_place?_of_child? (h : value.child? segment = some child) :
    ∃ place, value.place? segment = some place := by
  cases value <;> cases segment <;> try contradiction
  case map.key fields name =>
    have hget : Fields.get? fields name = some child := h
    exact ⟨.entry name, by rw [place?, hget, Option.map_some]⟩
  case list.index items i =>
    obtain ⟨n, hn, -⟩ := Option.bind_eq_some_iff.mp h
    exact ⟨.item n, by rw [place?, hn, Option.map_some]⟩

/-- Steps to one place lead to the same value, and something else is put there by either. -/
theorem steps_eq_of_place? (hstep : value.place? step = some place)
    (hnext : value.place? next = some place) :
    value.child? step = value.child? next ∧ value.setChild step = value.setChild next := by
  cases value <;> cases step <;> cases next <;> try contradiction
  case map.key.key fields name other =>
    obtain ⟨_, -, rfl⟩ := Option.map_eq_some_iff.mp hstep
    obtain ⟨_, -, hsame⟩ := Option.map_eq_some_iff.mp hnext
    cases hsame
    exact ⟨rfl, rfl⟩
  case list.index.index items i j =>
    obtain ⟨n, hn, rfl⟩ := Option.map_eq_some_iff.mp hstep
    obtain ⟨m, hm, hsame⟩ := Option.map_eq_some_iff.mp hnext
    cases hsame
    rw [child?, child?, hn, hm, setChild_index hn, setChild_index hm]
    exact ⟨rfl, rfl⟩

theorem stepsApart_of_place? (hstep : value.place? step = some place)
    (hnext : value.place? next ≠ some place) : StepsApart (some value) step next := by
  cases step <;> cases next <;> try trivial
  case key.key name other =>
    rintro rfl
    exact hnext hstep
  case index.index i j =>
    refine ⟨fun hsame ↦ hnext (hsame ▸ hstep), ?_⟩
    rintro items n hitems hn hj
    cases hitems
    rw [place?, hn] at hstep
    exact hnext (by rw [place?, hj, hstep])

theorem trail?_cons (hplace : value.place? segment = some place)
    (hchild : value.child? segment = some child) (path : Path) :
    value.trail? (segment :: path) = (child.trail? path).map (place :: ·) := by
  rw [trail?, hplace, hchild, Option.bind_some, Option.bind_some]

theorem exists_of_trail?_cons {path : Path} {places : List Place}
    (h : value.trail? (segment :: path) = some places) :
    ∃ place child below, value.place? segment = some place ∧ value.child? segment = some child ∧
      child.trail? path = some below ∧ places = place :: below := by
  obtain ⟨place, hplace, hrest⟩ := Option.bind_eq_some_iff.mp h
  obtain ⟨below, hbelow, hplaces⟩ := Option.map_eq_some_iff.mp hrest
  obtain ⟨child, hchild, htrail⟩ := Option.bind_eq_some_iff.mp hbelow
  exact ⟨place, child, below, hplace, hchild, htrail, hplaces.symm⟩

/-- Two paths lead to the same entries and items. -/
def SameWay (root : Value) (path other : Path) : Prop :=
  ∃ places, root.trail? path = some places ∧ root.trail? other = some places

/-- One path leads by where the other one ends. -/
def ComesBy (root : Value) (path other : Path) : Prop :=
  ∃ front rest, path = front ++ rest ∧ root.SameWay front other

variable {root after : Value} {path other : Path} {f : Value → Option Value}

theorem SameWay.cons (hstep : value.place? step = some place)
    (hnext : value.place? next = some place) (hchild : value.child? step = some child)
    (h : child.SameWay path other) : value.SameWay (step :: path) (next :: other) := by
  obtain ⟨places, hpath, hother⟩ := h
  have hnextChild : value.child? next = some child := by
    rw [← (steps_eq_of_place? hstep hnext).1, hchild]
  refine ⟨place :: places, ?_, ?_⟩
  · rw [trail?_cons hstep hchild, hpath, Option.map_some]
  · rw [trail?_cons hnext hnextChild, hother, Option.map_some]

theorem SameWay.exists_cons (h : value.SameWay (step :: path) other) :
    ∃ next rest place child, other = next :: rest ∧ value.place? step = some place ∧
      value.place? next = some place ∧ value.child? step = some child ∧
        child.SameWay path rest := by
  obtain ⟨places, hpath, hother⟩ := h
  obtain ⟨place, child, below, hstep, hchild, htrail, rfl⟩ := exists_of_trail?_cons hpath
  cases other with
  | nil => cases hother
  | cons next rest =>
    obtain ⟨_, child', _, hnext, hchild', htrail', hsame⟩ := exists_of_trail?_cons hother
    cases hsame
    rw [← (steps_eq_of_place? hstep hnext).1, hchild] at hchild'
    cases hchild'
    exact ⟨next, rest, place, child, rfl, hstep, hnext, hchild, below, htrail, htrail'⟩

theorem SameWay.eq_nil (h : value.SameWay [] other) : other = [] := by
  obtain ⟨places, hpath, hother⟩ := h
  cases hpath
  cases other with
  | nil => rfl
  | cons =>
    obtain ⟨_, _, _, -, -, -, hsame⟩ := exists_of_trail?_cons hother
    contradiction

theorem ComesBy.cons (hstep : value.place? step = some place)
    (hnext : value.place? next = some place) (hchild : value.child? step = some child)
    (h : child.ComesBy path other) : value.ComesBy (step :: path) (next :: other) := by
  obtain ⟨front, rest, rfl, hsame⟩ := h
  exact ⟨step :: front, rest, rfl, hsame.cons hstep hnext hchild⟩

theorem not_comesBy_of_place?_ne (h : value.place? step ≠ value.place? next) :
    ¬value.ComesBy (step :: path) (next :: other) := by
  rintro ⟨front, rest, hfront, hsame⟩
  cases front with
  | nil => cases hsame.eq_nil
  | cons first front =>
    obtain ⟨rfl, -⟩ := List.cons.inj hfront
    obtain ⟨_, _, place, _, hother, hstep, hnext, -, -⟩ := hsame.exists_cons
    cases hother
    exact h (hstep.trans hnext.symm)

/-- What a change makes is found by every path that goes the same way. -/
theorem lookup_modify?_of_sameWay (h : root.modify? f path = some after)
    (hsame : root.SameWay path other) : after.lookup other = after.lookup path := by
  induction path generalizing root after other with
  | nil => rw [hsame.eq_nil]
  | cons step path ih =>
    obtain ⟨next, rest, place, child, rfl, hstep, hnext, hchild, hbelow⟩ := hsame.exists_cons
    obtain ⟨found, changed, hfound, hchanged, rfl⟩ := exists_of_modify?_cons h
    cases hchild.symm.trans hfound
    obtain ⟨hsteps, hput⟩ := steps_eq_of_place? hstep hnext
    have hnextChild : root.child? next = some child := hsteps.symm.trans hchild
    rw [lookup_setChild_cons (childOrMap?_isSome hchild), hput,
      lookup_setChild_cons (childOrMap?_isSome hnextChild), ih hchanged hbelow]

/-- A change at a path is not seen from one that neither comes by there nor ends on the way. -/
theorem lookup_modify?_elsewhere (h : root.modify? f path = some after)
    (hbehind : ¬root.ComesBy other path) (habove : ¬root.ComesBy path other) :
    after.lookup other = root.lookup other := by
  induction path generalizing root after other with
  | nil => exact absurd ⟨[], other, rfl, [], rfl, rfl⟩ hbehind
  | cons step path ih =>
    obtain ⟨child, changed, hchild, hchanged, rfl⟩ := exists_of_modify?_cons h
    obtain ⟨place, hstep⟩ := exists_place?_of_child? hchild
    cases other with
    | nil => exact absurd ⟨[], step :: path, rfl, [], rfl, rfl⟩ habove
    | cons next other =>
      by_cases hnext : root.place? next = some place
      · obtain ⟨hsame, hput⟩ := steps_eq_of_place? hstep hnext
        have hnextChild : root.child? next = some child := hsame.symm.trans hchild
        have hbelow : changed.lookup other = child.lookup other :=
          ih hchanged (fun hcomes ↦ hbehind (hcomes.cons hnext hstep hnextChild))
            fun hcomes ↦ habove (hcomes.cons hstep hnext hchild)
        rw [hput, lookup_setChild_cons (childOrMap?_isSome hnextChild), hbelow, lookup_cons,
          hnextChild, Option.bind_some]
      · rw [lookup_cons, lookup_cons, child?_setChild_of_apart (stepsApart_of_place? hstep hnext)]

/-! ### What one removal does -/

theorem removeStep?_isSome (value : Value) (step : Segment) :
    (value.removeStep? step).isSome = (value.child? step).isSome := by
  cases value <;> cases step <;> try rfl
  case map.key fields name =>
    rw [removeStep?, child?, Fields.contains]
    split
    · next h => rw [h, Option.isSome_some]
    · next h => rw [Bool.not_eq_true _ |>.mp h, Option.isSome_none]
  case list.index items i =>
    rw [removeStep?, child?, Option.isSome_map]
    cases hplace : resolveIndex i items.length with
    | none => rfl
    | some place => rw [Option.bind_some, List.getElem?_eq_getElem (resolveIndex_lt hplace)]; rfl

/-- A removal is possible exactly where something is found. -/
theorem modify?_removeStep?_isSome (root : Value) (parent : Path) (last : Segment) :
    (root.modify? (removeStep? · last) parent).isSome =
      (root.lookup (parent ++ [last])).isSome := by
  rw [lookup_append]
  cases hparent : root.lookup parent with
  | none => rw [modify?_eq, hparent, Option.bind_none, Option.bind_none]
  | some found =>
    rw [modify?_isSome hparent, removeStep?_isSome, Option.bind_some, lookup_cons]
    cases found.child? last <;> simp

/-- What is left of a value when the last step of a path is removed. -/
structure Removed (before after : Value) (parent : Path) (last : Segment) : Prop where
  /-- The parent is a map, which loses the entry under the key and nothing else. -/
  entry : ∀ name, last = .key name → after.lookup (parent ++ [.key name]) = none ∧
    ∃ fields left, before.lookup parent = some (.map fields) ∧
      after.lookup parent = some (.map left) ∧
      ∀ key, Fields.get? left key = if key = name then none else Fields.get? fields key
  /-- The parent is a list, which loses the item that the index counts to. -/
  item : ∀ i, last = .index i → ∃ front item back,
    before.lookup parent = some (.list (front ++ item :: back)) ∧
      before.lookup (parent ++ [.index i]) = some item ∧
      (front.length : Int) =
        (if i.toInt < 0 then (front ++ item :: back).length + i.toInt else i.toInt) ∧
      after.lookup parent = some (.list (front ++ back))
  /-- What holds the parent holds what is left of it. -/
  above : ∀ front rest other, parent = front ++ rest → before.SameWay front other →
    after.lookup other = (before.lookup front).bind (modify? (removeStep? · last) · rest)
  /-- What neither comes by the parent nor holds it is found as it was, and what is missing stays
  missing. -/
  elsewhere : ∀ other, ¬before.ComesBy other parent → ¬before.ComesBy parent other →
    after.lookup other = before.lookup other

/-- A list parts at the place that an index counts to. -/
theorem exists_split_of_resolveIndex {items : List Value} {i : Int64} {n : Nat}
    (h : resolveIndex i items.length = some n) :
    ∃ front item back, items = front ++ item :: back ∧ items[n]? = some item ∧
      items.eraseIdx n = front ++ back ∧ (front.length : Int) =
        (if i.toInt < 0 then items.length + i.toInt else i.toInt) := by
  have hlt := resolveIndex_lt h
  have hlength : (items.take n).length = n := List.length_take_of_le hlt.le
  refine ⟨items.take n, items[n], items.drop (n + 1), ?_, List.getElem?_eq_getElem hlt,
    List.eraseIdx_eq_take_drop_succ items n, ?_⟩
  · rw [← List.drop_eq_getElem_cons hlt, List.take_append_drop]
  · rw [hlength]
    exact (resolveIndex_eq_some_iff.mp h).2.2

theorem removed_of_modify? {root after : Value} (hwell : root.WellFormed) {parent : Path}
    {last : Segment} (h : root.modify? (removeStep? · last) parent = some after) :
    Removed root after parent last where
  entry name hlast := by
    subst hlast
    obtain ⟨old, new, hold, hnew, hafter⟩ := exists_of_modify? h
    have hformed : old.WellFormed := wellFormed_of_lookup hwell hold
    cases old <;> try contradiction
    next fields =>
      rw [removeStep?, Option.ite_none_right_eq_some] at hnew
      obtain ⟨-, hleft⟩ := hnew
      cases hleft
      have hgone := Fields.get?_erase_self hformed.1 name
      refine ⟨?_, fields, Fields.erase fields name, hold, hafter, fun key ↦ ?_⟩
      · rw [lookup_append, hafter, Option.bind_some, lookup_cons, child?, hgone, Option.bind_none]
      · by_cases hkey : key = name
        · rw [if_pos hkey, hkey, hgone]
        · rw [if_neg hkey, Fields.get?_erase_of_ne hkey]
  item i hlast := by
    subst hlast
    obtain ⟨old, new, hold, hnew, hafter⟩ := exists_of_modify? h
    cases old <;> try contradiction
    next items =>
      obtain ⟨n, hn, rfl⟩ := Option.map_eq_some_iff.mp hnew
      obtain ⟨front, item, back, hitems, hitem, hleft, hcount⟩ := exists_split_of_resolveIndex hn
      have hfound : root.lookup (parent ++ [.index i]) = some item := by
        rw [lookup_append, hold, Option.bind_some, lookup_cons, child?, hn, Option.bind_some, hitem,
          Option.bind_some, lookup_nil]
      rw [hleft] at hafter
      rw [hitems] at hold hcount
      exact ⟨front, item, back, hold, hfound, hcount, hafter⟩
  above front rest other hparent hsame := by
    subst hparent
    rw [modify?_append] at h
    obtain ⟨old, new, hold, hnew, hafter⟩ := exists_of_modify? h
    rw [lookup_modify?_of_sameWay h hsame, hafter, hold, Option.bind_some, hnew]
  elsewhere other hbehind habove := lookup_modify?_elsewhere h hbehind habove

end Value

namespace Document

/-- At the root, a removal empties what holds something. Anywhere else it takes out what is found,
where anything is, and reports whether something was. -/
theorem remove_exact {document : Document} (hwell : document.root.WellFormed) {text : String}
    {path : Path} (hpath : document.parsePath text = .ok path) :
    ∃ reported root, (remove text).run document = .ok reported { document with root } ∧
      (reported = false → root = document.root) ∧
      (path = [] →
        (reported = true ↔ document.root.isContainer = true) ∧
          (∀ fields, document.root = .map fields → root = .map []) ∧
          ∀ items, document.root = .list items → root = .list []) ∧
      ∀ parent last, path = parent ++ [last] →
        (reported = true ↔ ∃ found, document.lookup text = .ok (some found)) ∧
          (reported = true → Value.Removed document.root root parent last) := by
  obtain ⟨left, hleft⟩ : ∃ left, removeChange path document.root = .ok left := ⟨_, rfl⟩
  have hrun := remove_run document text
  rw [changeAt_of_parsePath hpath, hleft, concluded_ok] at hrun
  refine ⟨_, _, hrun, ?_, ?_, ?_⟩
  · intro hnot
    rw [Option.isSome_eq_false_iff, Option.isNone_iff_eq_none] at hnot
    rw [hnot, Option.getD_none]
  · rintro rfl
    cases hleft
    cases document.root <;> simp [Value.clear?, Value.isContainer]
  · rintro parent last rfl
    rw [removeChange_concat] at hleft
    cases hleft
    refine ⟨?_, fun hreported ↦ ?_⟩
    · rw [Value.modify?_removeStep?_isSome, lookup_of_parsePath hpath, Option.isSome_iff_exists]
      simp
    · obtain ⟨root, hroot⟩ := Option.isSome_iff_exists.mp hreported
      rw [hroot, Option.getD_some]
      exact Value.removed_of_modify? hwell hroot

/-- The first of three items, which an index counted from the end leads to. -/
theorem remove_exact_of_first_item :
    let document : Document :=
      { root := .map [("a", .map [("items", .list [.int 1, .int 2, .int 3])]), ("b", .null)] }
    let parent : Path := [.key "a", .key "items"]
    document.root.WellFormed ∧
      document.parsePath "a.items[-3]" = .ok (parent ++ [.index (-3)]) ∧
      ∃ root, (remove "a.items[-3]").run document = .ok true { document with root } ∧
        Value.Removed document.root root parent (.index (-3)) ∧
        root.lookup parent = some (.list [.int 2, .int 3]) ∧
        root.lookup [.key "b"] = some .null := by
  intro document parent
  have hwell : document.root.WellFormed :=
    ⟨by decide, ⟨⟨by decide, ⟨trivial, trivial, trivial, trivial⟩, trivial⟩, trivial, trivial⟩⟩
  have hparse : Path.parse "a.items[-3]" .dot = .ok (parent ++ [.index (-3)]) := by decide +kernel
  have hpath : document.parsePath "a.items[-3]" = .ok (parent ++ [.index (-3)]) :=
    congrArg (Except.mapError DocumentError.path) hparse
  obtain ⟨reported, root, hrun, -, -, hbelow⟩ := remove_exact hwell hpath
  obtain ⟨hreported, hremoved⟩ := hbelow parent (.index (-3)) rfl
  have hfound : document.lookup "a.items[-3]" = .ok (some (.int 1)) := lookup_of_parsePath hpath
  cases hreported.mpr ⟨_, hfound⟩
  have hremoved := hremoved rfl
  refine ⟨hwell, hpath, root, hrun, hremoved, ?_, ?_⟩
  · obtain ⟨front, item, back, hbefore, -, hcount, hafter⟩ := hremoved.item (-3) rfl
    have hitems : [.int 1, .int 2, .int 3] = front ++ item :: back :=
      Value.list.inj (Option.some.inj hbefore)
    rw [← hitems] at hcount
    have hfront : front.length = 0 := Int.ofNat.inj (hcount.trans (by decide))
    cases List.eq_nil_of_length_eq_zero hfront
    cases hitems
    exact hafter
  · have hplaces : document.root.place? (.key "b") ≠ document.root.place? (.key "a") := by decide
    exact hremoved.elsewhere [.key "b"] (Value.not_comesBy_of_place?_ne hplaces)
      (Value.not_comesBy_of_place?_ne hplaces.symm)

end Document

end ClusterRouter
