import ClusterRouter.Proofs.Document.Editing

/-!
# Changing what a path leads to

`Value.modify` applies a function to what is found at a path, and leaves the value as it is where
nothing is found. Changes at one path make one change, a change behind a longer path is a change
behind its beginning, and changes behind different keys leave each other alone.
-/

namespace ClusterRouter

namespace Value

/-- The value with a function applied to what is found at a path, if anything is. -/
def modify (f : Value → Value) : Value → Path → Value
  | value, [] => f value
  | value, segment :: path =>
    (value.child? segment).elim value fun child ↦ value.setChild segment (modify f child path)

variable {f g : Value → Value}

@[simp]
theorem modify_nil (f : Value → Value) (value : Value) : value.modify f [] = f value := rfl

theorem modify_cons_of_child? {value child : Value} {segment : Segment}
    (h : value.child? segment = some child) (f : Value → Value) (path : Path) :
    value.modify f (segment :: path) = value.setChild segment (child.modify f path) := by
  rw [modify, h, Option.elim_some]

theorem modify_cons_of_none {value : Value} {segment : Segment} (h : value.child? segment = none)
    (f : Value → Value) (path : Path) : value.modify f (segment :: path) = value := by
  rw [modify, h, Option.elim_none]

theorem child?_setChild_of_child? {value child : Value} {segment : Segment}
    (h : value.child? segment = some child) (new : Value) :
    (value.setChild segment new).child? segment = some new :=
  child?_setChild_self (childOrMap?_isSome h) new

theorem lookup_modify (f : Value → Value) (value : Value) (path : Path) :
    (value.modify f path).lookup path = (value.lookup path).map f := by
  induction path generalizing value with
  | nil => simp
  | cons segment path ih =>
    rw [lookup_cons, lookup_cons]
    cases hchild : value.child? segment with
    | none => rw [modify_cons_of_none hchild, hchild, Option.bind_none, Option.map_none]
    | some child => rw [modify_cons_of_child? hchild, child?_setChild_of_child? hchild,
        Option.bind_some, Option.bind_some, ih]

theorem modify_append (f : Value → Value) (value : Value) (path rest : Path) :
    value.modify f (path ++ rest) = value.modify (fun v ↦ v.modify f rest) path := by
  induction path generalizing value with
  | nil => rfl
  | cons segment path ih =>
    cases hchild : value.child? segment with
    | none => rw [List.cons_append, modify_cons_of_none hchild, modify_cons_of_none hchild]
    | some child => rw [List.cons_append, modify_cons_of_child? hchild,
        modify_cons_of_child? hchild, ih]

/-- Two changes at one path are one change. -/
theorem modify_modify (f g : Value → Value) (value : Value) (path : Path) :
    (value.modify f path).modify g path = value.modify (g ∘ f) path := by
  induction path generalizing value with
  | nil => rfl
  | cons segment path ih =>
    cases hchild : value.child? segment with
    | none => rw [modify_cons_of_none hchild, modify_cons_of_none hchild,
        modify_cons_of_none hchild]
    | some child => rw [modify_cons_of_child? hchild, modify_cons_of_child? hchild,
        modify_cons_of_child? (child?_setChild_of_child? hchild _), setChild_setChild, ih]

/-- Only what is found at the path matters to a change. -/
theorem modify_congr {value : Value} {path : Path}
    (h : ∀ found, value.lookup path = some found → f found = g found) :
    value.modify f path = value.modify g path := by
  induction path generalizing value with
  | nil => exact h value (lookup_nil value)
  | cons segment path ih =>
    cases hchild : value.child? segment with
    | none => rw [modify_cons_of_none hchild, modify_cons_of_none hchild]
    | some child =>
      have hbelow : child.modify f path = child.modify g path := by
        apply ih
        intro found hfound
        exact h found (by rw [lookup_cons, hchild, Option.bind_some, hfound])
      rw [modify_cons_of_child? hchild, modify_cons_of_child? hchild, hbelow]

theorem modify_eq_self {value : Value} (hwell : WellFormed value) {path : Path}
    (h : ∀ found, value.lookup path = some found → f found = found) : value.modify f path = value := by
  induction path generalizing value with
  | nil => exact h value (lookup_nil value)
  | cons segment path ih =>
    cases hchild : value.child? segment with
    | none => rw [modify_cons_of_none hchild]
    | some child =>
      have hbelow : child.modify f path = child := by
        apply ih (wellFormed_of_child? hwell hchild)
        intro found hfound
        exact h found (by rw [lookup_cons, hchild, Option.bind_some, hfound])
      rw [modify_cons_of_child? hchild, hbelow, setChild_of_child? hwell hchild]

/-- A change that may be refused puts what it makes of the value that is found. -/
theorem modify?_of_lookup {value found : Value} {path : Path} (hfound : value.lookup path = some found)
    (f : Value → Option Value) :
    value.modify? f path = (f found).map fun new ↦ value.modify (fun _ ↦ new) path := by
  induction path generalizing value with
  | nil =>
    cases (lookup_nil value).symm.trans hfound
    simp
  | cons segment path ih =>
    obtain ⟨child, hchild, hrest⟩ := exists_of_lookup_cons hfound
    rw [modify?_cons, hchild, Option.bind_some, ih hrest, Option.map_map]
    congr 1
    funext new
    exact (modify_cons_of_child? hchild _ path).symm

/-- To put something where something is found is to change what is found. -/
theorem create?_of_lookup {value found : Value} {path : Path}
    (hfound : value.lookup path = some found) (new : Value) :
    value.create? path new = some (value.modify (fun _ ↦ new) path) := by
  have hmodify : value.modify? (fun _ ↦ some new) path = value.create? path new := by
    rw [modify?_eq, hfound, Option.bind_some, Option.bind_some]
  rw [← hmodify, modify?_of_lookup hfound, Option.map_some]

theorem wellFormed_modify {value : Value} (hwell : WellFormed value) {path : Path}
    (h : ∀ found, value.lookup path = some found → WellFormed (f found)) :
    WellFormed (value.modify f path) := by
  induction path generalizing value with
  | nil => exact h value (lookup_nil value)
  | cons segment path ih =>
    cases hchild : value.child? segment with
    | none =>
      rw [modify_cons_of_none hchild]
      exact hwell
    | some child =>
      rw [modify_cons_of_child? hchild]
      refine wellFormed_setChild hwell (ih (wellFormed_of_child? hwell hchild) ?_) segment
      intro found hfound
      exact h found (by rw [lookup_cons, hchild, Option.bind_some, hfound])

/-- Behind a key of a map, only the entry of that key changes. -/
theorem field?_modify (f : Value → Value) (value : Value) (name : String) (path : Path)
    (key : String) :
    (value.modify f (.key name :: path)).field? key =
      if key = name then (value.field? name).map (modify f · path) else value.field? key := by
  cases value <;> try (split <;> rfl)
  case map fields =>
    have hentry : (map fields).field? name = (map fields).child? (.key name) := rfl
    rw [hentry]
    cases hname : (map fields).child? (.key name) with
    | none =>
      rw [modify_cons_of_none hname]
      split
      · next hkey => rw [hkey, hentry, hname, Option.map_none]
      · rfl
    | some entry =>
      rw [modify_cons_of_child? hname]
      exact Fields.get?_insert fields name key (entry.modify f path)

theorem isSome_asMap_modify_key (f : Value → Value) (value : Value) (name : String) (path : Path) :
    (value.modify f (.key name :: path)).asMap.isSome = value.asMap.isSome := by
  cases value <;> try rfl
  case map fields =>
    cases hname : (map fields).child? (.key name) with
    | none => rw [modify_cons_of_none hname]
    | some entry =>
      rw [modify_cons_of_child? hname]
      rfl

/-! ### Changes behind different keys -/

section

variable {name next : String} {rest others : Path}

theorem lookup_modify_key_of_ne (h : name ≠ next) (f : Value → Value) (value : Value) :
    (value.modify f (.key name :: rest)).lookup (.key next :: others) =
      value.lookup (.key next :: others) := by
  have hchild (v : Value) : v.child? (.key next) = v.field? next := by
    cases v <;> rfl
  rw [lookup_cons, lookup_cons, hchild, hchild, field?_modify, if_neg h.symm]

theorem modify_key_comm (h : name ≠ next) (f g : Value → Value) (value : Value) :
    (value.modify f (.key name :: rest)).modify g (.key next :: others) =
      (value.modify g (.key next :: others)).modify f (.key name :: rest) := by
  cases value <;> try rfl
  case map fields =>
    have hother {key other : String} (hne : other ≠ key) (new : Value) :
        (Value.map (Fields.insert fields key new)).child? (.key other) =
          (Value.map fields).child? (.key other) := Fields.get?_insert_of_ne hne fields new
    cases hname : (map fields).child? (.key name) with
    | none =>
      rw [modify_cons_of_none hname]
      cases hnext : (map fields).child? (.key next) with
      | none => rw [modify_cons_of_none hnext, modify_cons_of_none hname]
      | some second =>
        rw [modify_cons_of_child? hnext, setChild, modify_cons_of_none ((hother h _).trans hname)]
    | some first =>
      rw [modify_cons_of_child? hname, setChild]
      cases hnext : (map fields).child? (.key next) with
      | none =>
        rw [modify_cons_of_none ((hother h.symm _).trans hnext), modify_cons_of_none hnext,
          modify_cons_of_child? hname, setChild]
      | some second =>
        rw [modify_cons_of_child? ((hother h.symm _).trans hnext), modify_cons_of_child? hnext,
          setChild, setChild, modify_cons_of_child? ((hother h _).trans hname), setChild,
          Fields.insert_comm h]

/-- A change behind one key of a part leaves what is found behind another one. -/
theorem lookup_modify_of_ne (h : name ≠ next) (f : Value → Value) (value : Value) (base : Path) :
    (value.modify f (base ++ .key name :: rest)).lookup (base ++ .key next :: others) =
      value.lookup (base ++ .key next :: others) := by
  rw [modify_append, lookup_append, lookup_modify, lookup_append]
  cases value.lookup base with
  | none => rfl
  | some found => exact lookup_modify_key_of_ne h f found

/-- Changes behind different keys of one part commute. -/
theorem modify_comm (h : name ≠ next) (f g : Value → Value) (value : Value) (base : Path) :
    (value.modify f (base ++ .key name :: rest)).modify g (base ++ .key next :: others) =
      (value.modify g (base ++ .key next :: others)).modify f (base ++ .key name :: rest) := by
  rw [modify_append, modify_append, modify_append, modify_append, modify_modify, modify_modify]
  congr 1
  funext found
  exact modify_key_comm h f g found

end

end Value

namespace Document

/-- The document with a function applied to what is found at a path. -/
def modifyRoot (f : Value → Value) (document : Document) (path : Path) : Document :=
  { document with root := document.root.modify f path }

variable {f g : Value → Value} {document : Document} {path : Path}

theorem modifyRoot_modifyRoot (f g : Value → Value) (document : Document) (path : Path) :
    (document.modifyRoot f path).modifyRoot g path = document.modifyRoot (g ∘ f) path := by
  unfold modifyRoot
  rw [Value.modify_modify]

theorem modifyRoot_congr
    (h : ∀ found, document.root.lookup path = some found → f found = g found) :
    document.modifyRoot f path = document.modifyRoot g path := by
  unfold modifyRoot
  rw [Value.modify_congr h]

theorem modifyRoot_eq_self (hwell : document.root.WellFormed)
    (h : ∀ found, document.root.lookup path = some found → f found = found) :
    document.modifyRoot f path = document := by
  unfold modifyRoot
  rw [Value.modify_eq_self hwell h]

end Document

end ClusterRouter
