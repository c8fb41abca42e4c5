import ClusterRouter.Document.Navigation
import ClusterRouter.Proofs.Path.Index
import ClusterRouter.Proofs.Value.Equality

/-!
# Laws of navigation

Every walk down a tree of values is a row of single steps: `child?` is what one step leads to and
`setChild` puts something in its place. The laws of the two carry over to whole paths: what was
put at a path is found there, and equal values lead to equal values. A path can be created exactly
where `Creatable` says so: lists never grow, nothing leads through a scalar, and only keys are
added.
-/

namespace ClusterRouter.Value

/-! ### One step -/

/-- What one step leads to. -/
def child? : Value → Segment → Option Value
  | .map fields, .key name => Fields.get? fields name
  | .list items, .index i => (resolveIndex i items.length).bind (items[·]?)
  | _, _ => none

/-- What one step leads to when a path is being created. -/
def childOrMap? : Value → Segment → Option Value
  | .map fields, .key name => some (entryOrMap fields name)
  | .list items, .index i => (resolveIndex i items.length).bind (items[·]?)
  | _, _ => none

/-- The value with something else where one step leads. -/
def setChild : Value → Segment → Value → Value
  | .map fields, .key name, new => .map (Fields.insert fields name new)
  | .list items, .index i, new =>
    .list ((resolveIndex i items.length).elim items fun place ↦ items.set place new)
  | value, _, _ => value

theorem setChild_index {items : List Value} {i : Int64} {place : Nat}
    (h : resolveIndex i items.length = some place) :
    (list items).setChild (.index i) = fun new ↦ .list (items.set place new) := by
  funext new
  rw [setChild, h, Option.elim_some]

theorem lookup_cons (value : Value) (segment : Segment) (path : Path) :
    value.lookup (segment :: path) = (value.child? segment).bind (lookup · path) := by
  cases value <;> cases segment <;> try rfl
  case list.index items i =>
    rw [lookup, child?]
    cases resolveIndex i items.length <;> rfl

theorem modify?_cons (f : Value → Option Value) (value : Value) (segment : Segment)
    (path : Path) :
    value.modify? f (segment :: path) =
      (value.child? segment).bind fun child ↦ (child.modify? f path).map (value.setChild segment) := by
  cases value <;> cases segment <;> try rfl
  case list.index items i =>
    rw [modify?, child?]
    cases hplace : resolveIndex i items.length with
    | none => rfl
    | some place => rw [setChild_index hplace, Option.bind_some, Option.bind_some]

theorem create?_cons (value : Value) (segment : Segment) (path : Path) (item : Value) :
    value.create? (segment :: path) item =
      (value.childOrMap? segment).bind fun child ↦
        (child.create? path item).map (value.setChild segment) := by
  cases value <;> cases segment <;> try rfl
  case list.index items i =>
    rw [create?, childOrMap?]
    cases hplace : resolveIndex i items.length with
    | none => rfl
    | some place => rw [setChild_index hplace, Option.bind_some, Option.bind_some]

theorem exists_of_lookup_cons {value found : Value} {segment : Segment} {path : Path}
    (h : value.lookup (segment :: path) = some found) :
    ∃ child, value.child? segment = some child ∧ child.lookup path = some found := by
  rw [lookup_cons] at h
  exact Option.bind_eq_some_iff.mp h

/-- A change below the first step changes what that step leads to. -/
theorem exists_of_modify?_cons {f : Value → Option Value} {value after : Value}
    {segment : Segment} {path : Path} (h : value.modify? f (segment :: path) = some after) :
    ∃ child changed, value.child? segment = some child ∧ child.modify? f path = some changed ∧
      value.setChild segment changed = after := by
  rw [modify?_cons] at h
  obtain ⟨child, hchild, hmap⟩ := Option.bind_eq_some_iff.mp h
  obtain ⟨changed, hchanged, hafter⟩ := Option.map_eq_some_iff.mp hmap
  exact ⟨child, changed, hchild, hchanged, hafter⟩

theorem exists_of_create?_cons {value after item : Value} {segment : Segment} {path : Path}
    (h : value.create? (segment :: path) item = some after) :
    ∃ child changed, value.childOrMap? segment = some child ∧
      child.create? path item = some changed ∧ value.setChild segment changed = after := by
  rw [create?_cons] at h
  obtain ⟨child, hchild, hmap⟩ := Option.bind_eq_some_iff.mp h
  obtain ⟨changed, hchanged, hafter⟩ := Option.map_eq_some_iff.mp hmap
  exact ⟨child, changed, hchild, hchanged, hafter⟩

theorem childOrMap?_of_child? {value child : Value} {segment : Segment}
    (h : value.child? segment = some child) (hnull : child.isNull = false) :
    value.childOrMap? segment = some child := by
  cases value <;> cases segment <;> try contradiction
  case map.key fields name =>
    rw [child?] at h
    rw [childOrMap?, entryOrMap, h]
    cases child <;> first | rfl | contradiction
  case list.index => exact h

/-- Creating a path goes through what is there, or through an empty map where nothing is or null. -/
theorem childOrMap?_cases {value child : Value} {segment : Segment}
    (h : value.childOrMap? segment = some child) :
    value.child? segment = some child ∨
      child = .map [] ∧ (value.child? segment = none ∨ value.child? segment = some .null) := by
  cases value <;> cases segment <;> try contradiction
  case map.key fields name =>
    have hentry : entryOrMap fields name = child := Option.some.inj h
    rw [child?]
    unfold entryOrMap at hentry
    split at hentry
    · next hget => exact .inr ⟨hentry.symm, .inl hget⟩
    · next hget => exact .inr ⟨hentry.symm, .inr hget⟩
    · next hget => exact .inl (hentry ▸ hget)
  case list.index => exact .inl h

theorem childOrMap?_isSome {value child : Value} {segment : Segment}
    (h : value.child? segment = some child) : (value.childOrMap? segment).isSome := by
  cases value <;> cases segment <;> try contradiction
  case map.key => rfl
  case list.index => exact Option.isSome_of_mem h

theorem child?_setChild_self {value : Value} {segment : Segment}
    (h : (value.childOrMap? segment).isSome) (new : Value) :
    (value.setChild segment new).child? segment = some new := by
  cases value <;> cases segment <;> try contradiction
  case map.key fields name => exact Fields.get?_insert_self fields name new
  case list.index items i =>
    obtain ⟨old, hold⟩ := Option.isSome_iff_exists.mp h
    obtain ⟨place, hplace, -⟩ := Option.bind_eq_some_iff.mp hold
    have hlt := resolveIndex_lt hplace
    simp [child?, setChild, hplace, hlt]

/-- Behind a step where something was put, the path goes on there. -/
theorem lookup_setChild_cons {value : Value} {segment : Segment}
    (h : (value.childOrMap? segment).isSome) (new : Value) (path : Path) :
    (value.setChild segment new).lookup (segment :: path) = new.lookup path := by
  rw [lookup_cons, child?_setChild_self h, Option.bind_some]

theorem setChild_setChild (value : Value) (segment : Segment) (first second : Value) :
    (value.setChild segment first).setChild segment second = value.setChild segment second := by
  cases value <;> cases segment <;> try rfl
  case map.key fields name => exact congrArg map (Fields.insert_insert fields name first second)
  case list.index items i =>
    cases hplace : resolveIndex i items.length <;> simp [setChild, hplace]

theorem wellFormed_of_child? {value child : Value} {segment : Segment} (hwell : WellFormed value)
    (h : value.child? segment = some child) : WellFormed child := by
  cases value <;> cases segment <;> try contradiction
  case map.key fields name => exact WellFormed.get? hwell.2 h
  case list.index items i =>
    obtain ⟨place, -, hchild⟩ := Option.bind_eq_some_iff.mp h
    exact WellFormed.getElem? hwell hchild

theorem setChild_of_child? {value child : Value} {segment : Segment} (hwell : WellFormed value)
    (h : value.child? segment = some child) : value.setChild segment child = value := by
  cases value <;> cases segment <;> try contradiction
  case map.key fields name => exact congrArg map (Fields.insert_of_get? hwell.1 h)
  case list.index items i =>
    obtain ⟨place, hplace, hget⟩ := Option.bind_eq_some_iff.mp h
    obtain ⟨hlt, rfl⟩ := List.getElem?_eq_some_iff.mp hget
    exact (congrFun (setChild_index hplace) _).trans (congrArg list (List.set_getElem_self hlt))

theorem child?_beq {a b : Value} (h : (a == b) = true) (segment : Segment) :
    (a.child? segment == b.child? segment) = true := by
  cases segment with
  | key name => cases a with
    | map xs =>
      obtain ⟨ys, rfl, hfields⟩ := exists_map_of_beq h
      exact get?_beq_of_equalFields hfields name
    | _ => cases b <;> first | rfl | contradiction
  | index i => cases a with
    | list xs =>
      obtain ⟨ys, rfl, hitems⟩ := exists_list_of_beq h
      rw [child?, child?, ← length_eq_of_equalItems hitems]
      cases resolveIndex i xs.length with
      | none => rfl
      | some place => exact getElem?_beq_of_equalItems hitems place
    | _ => cases b <;> first | rfl | contradiction

/-! ### Whole paths -/

theorem lookup_append (value : Value) (path rest : Path) :
    value.lookup (path ++ rest) = (value.lookup path).bind (lookup · rest) := by
  induction path generalizing value with
  | nil => cases value <;> rfl
  | cons segment path ih =>
    rw [List.cons_append, lookup_cons, lookup_cons]
    cases value.child? segment with
    | none => rfl
    | some child => exact ih child

@[simp]
theorem lookup_nil (value : Value) : value.lookup [] = some value := by
  cases value <;> rfl

theorem lookup_key (value : Value) (name : String) :
    value.lookup [.key name] = value.field? name := by
  cases value <;> try rfl
  case map fields => exact Option.bind_fun_some _

/-- An index leads to an item of a list that is found in front of it. -/
theorem lookup_item_iff {value found : Value} {base rest : Path} {i : Int64} :
    value.lookup (base ++ .index i :: rest) = some found ↔
      ∃ items place item, value.lookup base = some (list items) ∧
        resolveIndex i items.length = some place ∧ items[place]? = some item ∧
        item.lookup rest = some found := by
  rw [lookup_append]
  constructor
  · intro h
    obtain ⟨container, hbase, hfound⟩ := Option.bind_eq_some_iff.mp h
    obtain ⟨item, hitem, hrest⟩ := exists_of_lookup_cons hfound
    cases container <;> try contradiction
    case list items =>
      obtain ⟨place, hplace, hget⟩ := Option.bind_eq_some_iff.mp hitem
      exact ⟨items, place, item, hbase, hplace, hget, hrest⟩
  · rintro ⟨items, place, item, hbase, hplace, hget, hrest⟩
    rw [hbase, Option.bind_some, lookup_cons, child?, hplace, Option.bind_some, hget,
      Option.bind_some, hrest]

theorem wellFormed_of_lookup {value found : Value} {path : Path} (hwell : WellFormed value)
    (h : value.lookup path = some found) : WellFormed found := by
  induction path generalizing value with
  | nil =>
    cases (lookup_nil value).symm.trans h
    exact hwell
  | cons segment path ih =>
    obtain ⟨child, hchild, hrest⟩ := exists_of_lookup_cons h
    exact ih (wellFormed_of_child? hwell hchild) hrest

theorem lookup_null {path : Path} (h : path ≠ []) : lookup .null path = none := by
  cases path with
  | nil => contradiction
  | cons segment => cases segment <;> rfl

theorem lookup_map_nil {path : Path} (h : path ≠ []) : lookup (.map []) path = none := by
  cases path with
  | nil => contradiction
  | cons segment => cases segment <;> rfl

@[simp]
theorem modify?_nil (f : Value → Option Value) (value : Value) : value.modify? f [] = f value := by
  cases value <;> rfl

theorem modify?_append (f : Value → Option Value) (root : Value) (path rest : Path) :
    root.modify? f (path ++ rest) = root.modify? (fun v ↦ v.modify? f rest) path := by
  induction path generalizing root with
  | nil => rw [List.nil_append, modify?_nil]
  | cons segment path ih =>
    rw [List.cons_append, modify?_cons, modify?_cons]
    congr 1
    funext child
    rw [ih]

@[simp]
theorem create?_nil (value item : Value) : value.create? [] item = some item := by
  cases value <;> rfl

theorem create?_key (fields : Fields) (name : String) (item : Value) :
    (map fields).create? [.key name] item = some (.map (Fields.insert fields name item)) := by
  rw [create?_cons, childOrMap?, Option.bind_some, create?_nil]
  rfl

/-- Equal values lead to equal values, or both lead nowhere. -/
theorem lookup_beq {a b : Value} (h : (a == b) = true) (path : Path) :
    (a.lookup path == b.lookup path) = true := by
  induction path generalizing a b with
  | nil => simpa using h
  | cons segment path ih =>
    have hchild := child?_beq h segment
    rw [lookup_cons, lookup_cons]
    cases ha : a.child? segment with
    | none => cases hb : b.child? segment with
      | none => rfl
      | some y => rw [ha, hb] at hchild; contradiction
    | some x => cases hb : b.child? segment with
      | none => rw [ha, hb] at hchild; contradiction
      | some y =>
        rw [ha, hb] at hchild
        exact ih hchild

/-- What was put at a path is found there. -/
theorem lookup_create? {value after item : Value} {path : Path}
    (h : value.create? path item = some after) : after.lookup path = some item := by
  induction path generalizing value after with
  | nil => simpa using h.symm
  | cons segment path ih =>
    obtain ⟨child, changed, hchild, hchanged, rfl⟩ := exists_of_create?_cons h
    rw [lookup_setChild_cons (Option.isSome_of_mem hchild)]
    exact ih hchanged

/-- A change at a path is a change of what is found there, and is found there. -/
theorem exists_of_modify? {f : Value → Option Value} {value after : Value} {path : Path}
    (h : value.modify? f path = some after) :
    ∃ old new, value.lookup path = some old ∧ f old = some new ∧ after.lookup path = some new := by
  induction path generalizing value after with
  | nil => exact ⟨value, after, by simp, by simpa using h, by simp⟩
  | cons segment path ih =>
    obtain ⟨child, changed, hchild, hchanged, rfl⟩ := exists_of_modify?_cons h
    obtain ⟨old, new, hold, hnew, hafter⟩ := ih hchanged
    refine ⟨old, new, ?_, hnew, ?_⟩
    · rw [lookup_cons, hchild, Option.bind_some, hold]
    · rw [lookup_setChild_cons (childOrMap?_isSome hchild), hafter]

/-- A change that is possible where a path leads is possible in the whole value. -/
theorem modify?_isSome {f : Value → Option Value} {value old : Value} {path : Path}
    (hold : value.lookup path = some old) : (value.modify? f path).isSome = (f old).isSome := by
  induction path generalizing value with
  | nil =>
    cases (lookup_nil value).symm.trans hold
    rw [modify?_nil]
  | cons segment path ih =>
    obtain ⟨child, hchild, hrest⟩ := exists_of_lookup_cons hold
    rw [modify?_cons, hchild, Option.bind_some, Option.isSome_map, ih hrest]

/-! ### Creating paths -/

/-- What creating goes through leads behind the step where the value led. -/
theorem lookup_childOrMap? {value child : Value} {segment : Segment}
    (h : value.childOrMap? segment = some child) {path : Path} (hne : path ≠ []) :
    child.lookup path = value.lookup (segment :: path) := by
  rw [lookup_cons]
  rcases childOrMap?_cases h with hfound | ⟨rfl, hmissing | hnull⟩
  · rw [hfound, Option.bind_some]
  · rw [hmissing, Option.bind_none, lookup_map_nil hne]
  · rw [hnull, Option.bind_some, lookup_map_nil hne, lookup_null hne]

/-- A change at a path puts there what it makes of what is found. -/
theorem create?_of_modify? {f : Value → Option Value} {value after : Value} {path : Path}
    (h : value.modify? f path = some after) : ∃ new, value.create? path new = some after := by
  induction path generalizing value after with
  | nil => exact ⟨after, create?_nil value after⟩
  | cons segment path ih =>
    obtain ⟨child, changed, hchild, hchanged, rfl⟩ := exists_of_modify?_cons h
    cases path with
    | nil =>
      obtain ⟨entry, hentry⟩ := Option.isSome_iff_exists.mp (childOrMap?_isSome hchild)
      refine ⟨changed, ?_⟩
      rw [create?_cons, hentry, Option.bind_some, create?_nil, Option.map_some]
    | cons next path =>
      -- the child has a child of its own, so it is not null and is what creating goes through
      have hnull : child.isNull = false := by
        cases child with
        | null => cases next <;> contradiction
        | _ => rfl
      obtain ⟨new, hnew⟩ := ih hchanged
      refine ⟨new, ?_⟩
      rw [create?_cons, childOrMap?_of_child? hchild hnull, Option.bind_some, hnew, Option.map_some]

/-- To change what is found at a path is to put there what it is changed to. -/
theorem modify?_eq (f : Value → Option Value) (root : Value) (path : Path) :
    root.modify? f path = (root.lookup path).bind fun old ↦ (f old).bind (root.create? path) := by
  cases hmodify : root.modify? f path with
  | some after =>
    obtain ⟨old, new, hold, hnew, hafter⟩ := exists_of_modify? hmodify
    obtain ⟨item, hcreate⟩ := create?_of_modify? hmodify
    cases hafter.symm.trans (lookup_create? hcreate)
    rw [hold, Option.bind_some, hnew, Option.bind_some, hcreate]
  | none =>
    cases hold : root.lookup path with
    | none => rfl
    | some old =>
      have hsame := modify?_isSome (f := f) hold
      rw [hmodify] at hsame
      have hrefused : f old = none := by simpa using hsame.symm
      rw [Option.bind_some, hrefused, Option.bind_none]

/-- To change what was put at a path is to put what it is changed to. -/
theorem modify?_of_create? {f : Value → Option Value} {value created first second : Value}
    {path : Path} (hcreated : value.create? path first = some created)
    (hf : f first = some second) : created.modify? f path = value.create? path second := by
  induction path generalizing value created with
  | nil =>
    cases (create?_nil value first).symm.trans hcreated
    rw [modify?_nil, create?_nil, hf]
  | cons segment path ih =>
    obtain ⟨child, changed, hchild, hchanged, rfl⟩ := exists_of_create?_cons hcreated
    have hput : (value.setChild segment changed).setChild segment = value.setChild segment :=
      funext (setChild_setChild value segment changed)
    rw [modify?_cons, child?_setChild_self (Option.isSome_of_mem hchild), Option.bind_some,
      ih hchanged, hput, create?_cons, hchild, Option.bind_some]

/-- Below what is there already, creating a path changes what is found there. -/
theorem create?_append {value old : Value} {path : Path} (hold : value.lookup path = some old)
    (hnull : old.isNull = false) (rest : Path) (item : Value) :
    value.create? (path ++ rest) item = value.modify? (fun v ↦ v.create? rest item) path := by
  induction path generalizing value with
  | nil => simp
  | cons segment path ih =>
    obtain ⟨child, hchild, hrest⟩ := exists_of_lookup_cons hold
    have hchildNull : child.isNull = false := by
      cases child with
      | null => cases path with
        | nil =>
          cases hrest
          exact hnull
        | cons segment path => cases segment <;> contradiction
      | _ => rfl
    rw [List.cons_append, create?_cons, modify?_cons, hchild,
      childOrMap?_of_child? hchild hchildNull, Option.bind_some, Option.bind_some, ih hrest]

theorem wellFormed_setChild {value new : Value} (hwell : WellFormed value) (hnew : WellFormed new)
    (segment : Segment) : WellFormed (value.setChild segment new) := by
  cases value <;> cases segment <;> try exact hwell
  case map.key fields name =>
    exact ⟨Fields.ascending_insert hwell.1 name new, fieldsWellFormed_insert hwell.2 name hnew⟩
  case list.index items i =>
    rw [setChild]
    cases resolveIndex i items.length with
    | none => exact hwell
    | some place => exact itemsWellFormed_set hwell place hnew

/-- Where nothing is under a key, or null, creating goes through an empty map. -/
theorem childOrMap?_of_free {fields : Fields} {name : String}
    (h : Fields.get? fields name = none ∨ Fields.get? fields name = some .null) :
    (map fields).childOrMap? (.key name) = some (.map []) := by
  rw [childOrMap?, entryOrMap]
  rcases h with hnone | hnull
  · rw [hnone]
  · rw [hnull]

/-- Maps of one entry each along a row of keys, with a value at the end. -/
def chain : List String → Value → Value
  | [], value => value
  | name :: names, value => .map [(name, chain names value)]

/-- Below an empty map, creating a row of keys makes a chain. -/
theorem create?_keys (keys : List String) (item : Value) :
    create? (.map []) (keys.map .key) item = some (chain keys item) := by
  induction keys with
  | nil => rfl
  | cons name keys ih =>
    rw [List.map_cons, create?_cons, childOrMap?_of_free (.inl rfl), Option.bind_some, ih]
    rfl

/-- The places that can be created below a value: the value itself, a place that a list has, a key
of a map, and a chain of keys below a map where the first of them is missing or null. -/
inductive Creatable (root : Value) : Path → Prop where
  | root : Creatable root []
  | item {parent : Path} {items : List Value} {i : Int64} {place : Nat}
      (hparent : root.lookup parent = some (.list items))
      (hplace : resolveIndex i items.length = some place) : Creatable root (parent ++ [.index i])
  | entry {parent : Path} {fields : Fields} {name : String}
      (hparent : root.lookup parent = some (.map fields)) : Creatable root (parent ++ [.key name])
  | chain {parent : Path} {fields : Fields} {name : String} {keys : List String}
      (hparent : root.lookup parent = some (.map fields))
      (hfree : Fields.get? fields name = none ∨ Fields.get? fields name = some .null) :
      Creatable root (parent ++ .key name :: keys.map .key)

namespace Creatable

/-- What can be created below a child can be created below its parent. -/
theorem cons {root child : Value} {segment : Segment} {path : Path}
    (hchild : root.child? segment = some child) (h : Creatable child path) :
    Creatable root (segment :: path) := by
  have hlookup (rest : Path) : root.lookup (segment :: rest) = child.lookup rest := by
    rw [lookup_cons, hchild, Option.bind_some]
  cases h with
  | root =>
    cases root <;> cases segment <;> try contradiction
    case list.index items i =>
      obtain ⟨place, hplace, -⟩ := Option.bind_eq_some_iff.mp hchild
      exact @item _ [] items i place (lookup_nil _) hplace
    case map.key fields name => exact @entry _ [] fields name (lookup_nil _)
  | item hparent hplace => exact item ((hlookup _).trans hparent) hplace
  | entry hparent => exact entry ((hlookup _).trans hparent)
  | chain hparent hfree => exact chain ((hlookup _).trans hparent) hfree

/-- Below an empty map only keys can be created. -/
theorem exists_keys {path : Path} (h : Creatable (.map []) path) :
    ∃ keys : List String, path = keys.map .key := by
  have hroot {parent : Path} {value : Value} (hparent : lookup (.map []) parent = some value) :
      parent = [] ∧ value = .map [] := by
    by_cases hnil : parent = []
    · subst hnil
      exact ⟨rfl, (Option.some.inj hparent).symm⟩
    · rw [lookup_map_nil hnil] at hparent
      contradiction
  cases h with
  | root => exact ⟨[], rfl⟩
  | item hparent => exact absurd (hroot hparent).2 (by simp)
  | @entry parent fields name hparent =>
    obtain ⟨rfl, -⟩ := hroot hparent
    exact ⟨[name], rfl⟩
  | @chain parent fields name keys hparent =>
    obtain ⟨rfl, -⟩ := hroot hparent
    exact ⟨name :: keys, rfl⟩

theorem of_create? {root after item : Value} {path : Path}
    (h : root.create? path item = some after) : Creatable root path := by
  induction path generalizing root after with
  | nil => exact .root
  | cons segment path ih =>
    obtain ⟨child, changed, hchild, hchanged, -⟩ := exists_of_create?_cons h
    have hbelow := ih hchanged
    cases root <;> cases segment <;> try contradiction
    case list.index items i => exact cons hchild hbelow
    case map.key fields name =>
      have hfree (hget : Fields.get? fields name = none ∨ Fields.get? fields name = some .null) :
          Creatable (.map fields) (.key name :: path) := by
        cases (childOrMap?_of_free hget).symm.trans hchild
        obtain ⟨keys, rfl⟩ := exists_keys hbelow
        exact @chain _ [] fields name keys (lookup_nil _) hget
      cases hget : Fields.get? fields name with
      | none => exact hfree (.inl hget)
      | some entry =>
        by_cases hnull : entry.isNull
        · cases entry <;> first | exact hfree (.inr hget) | contradiction
        · have hentry : childOrMap? (.map fields) (.key name) = some entry :=
            childOrMap?_of_child? hget (by simpa using hnull)
          rw [hentry] at hchild
          exact cons hget (Option.some.inj hchild ▸ hbelow)

theorem create?_isSome {root : Value} {path : Path} (h : Creatable root path) (item : Value) :
    (root.create? path item).isSome := by
  cases h with
  | root => simp
  | @item parent items i place hparent hplace =>
    have hlt := resolveIndex_lt hplace
    rw [create?_append hparent rfl, modify?_isSome hparent, create?_cons, childOrMap?, hplace]
    simp [List.getElem?_eq_getElem hlt]
  | entry hparent =>
    rw [create?_append hparent rfl, modify?_isSome hparent, create?_cons, childOrMap?]
    simp
  | @chain parent fields name keys hparent hfree =>
    rw [create?_append hparent rfl, modify?_isSome hparent, create?_cons, childOrMap?_of_free hfree,
      Option.bind_some, Option.isSome_map, create?_keys, Option.isSome_some]

end Creatable

theorem creatable_iff {root : Value} {path : Path} (item : Value) :
    Creatable root path ↔ (root.create? path item).isSome := by
  refine ⟨fun h ↦ h.create?_isSome item, fun h ↦ ?_⟩
  obtain ⟨after, hafter⟩ := Option.isSome_iff_exists.mp h
  exact .of_create? hafter

end ClusterRouter.Value
