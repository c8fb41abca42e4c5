import ClusterRouter.Proofs.Document.Modification
import ClusterRouter.Proofs.Drift.Erasure
import ClusterRouter.Proofs.Drift.Preorder

/-!
# Desired values that a comparison does not tell apart

A desired value stands in for another one when it covers all that the other one covers. Equal values
do, a list whose items do, a map in a list whose counting entries do, and a document in which a part
on one of the levels where keys are skipped was replaced by one that does. Two values that stand in
for each other always get the same verdict.
-/

namespace ClusterRouter.Drift

/-- The position of what a path leads to. -/
def Position.after : Position → Path → Position
  | position, [] => position
  | _, .key _ :: path => after .entry path
  | _, .index _ :: path => after .item path

/-- A value covers whatever another one covers. -/
def StandsIn (skip : SkipSet) (position : Position) (value other : Value) : Prop :=
  ∀ observed, Covers skip position other observed → Covers skip position value observed

variable {skip : SkipSet} {position : Position}

theorem StandsIn.refl (value : Value) : StandsIn skip position value value := fun _ h ↦ h

theorem StandsIn.list {items others : List Value} (hlength : items.length = others.length)
    (h : ∀ (n : Nat) item other, items[n]? = some item → others[n]? = some other →
      StandsIn skip .item item other) :
    StandsIn skip .entry (.list items) (.list others) := by
  intro observed hcovers
  obtain ⟨found, rfl, hsame, hitems⟩ := hcovers.exists_list
  refine .list (hlength.trans hsame) ?_
  intro n item o hitem ho
  have hlt : n < others.length := by
    rw [← hlength]
    exact (List.getElem?_eq_some_iff.mp hitem).1
  have hother : others[n]? = some others[n] := List.getElem?_eq_getElem hlt
  exact h n item _ hitem hother o (hitems n _ o hother ho)

/-- A map in a list may have further entries. -/
theorem StandsIn.map {fields others : Fields}
    (h : ∀ key other, skip.contains key = false → Fields.get? others key = some other →
      ∃ value, Fields.get? fields key = some value ∧ StandsIn skip .entry value other) :
    StandsIn skip .item (.map fields) (.map others) := by
  intro observed hcovers
  obtain ⟨entries, rfl, -, hentries⟩ := hcovers.exists_map
  refine .of_entries (fun hentry ↦ by contradiction) ?_
  intro entry hmem hcounts
  obtain ⟨other, hother, hbelow⟩ := hentries entry hmem hcounts
  obtain ⟨value, hvalue, hstands⟩ := h entry.1 other hcounts hother
  exact ⟨value, hvalue, hstands entry.2 hbelow⟩

/-- A map in a list may get a field that it lacks. -/
theorem StandsIn.insert {fields : Fields} {name : String} (hmissing : Fields.get? fields name = none)
    (value : Value) :
    StandsIn skip .item (.map (Fields.insert fields name value)) (.map fields) := by
  apply StandsIn.map
  intro key other _ hother
  have hne : key ≠ name := by
    rintro rfl
    rw [hmissing] at hother
    contradiction
  exact ⟨other, (Fields.get?_insert_of_ne hne _ _).trans hother, .refl other⟩

/-- What stands in for a part of a document makes the document stand in for the whole. -/
theorem StandsIn.modify {f g : Value → Value} {path : Path} (hlevel : position.Level path)
    {root : Value} (hwell : root.WellFormed)
    (h : ∀ found, root.lookup path = some found →
      StandsIn skip (position.after path) (f found) (g found)) :
    StandsIn skip position (root.modify f path) (root.modify g path) := by
  induction path generalizing position root with
  | nil => exact h root (Value.lookup_nil root)
  | cons segment path ih =>
    cases hchild : root.child? segment with
    | none =>
      rw [Value.modify_cons_of_none hchild, Value.modify_cons_of_none hchild]
      exact .refl root
    | some child =>
      rw [Value.modify_cons_of_child? hchild, Value.modify_cons_of_child? hchild]
      have hformed : child.WellFormed := Value.wellFormed_of_child? hwell hchild
      have hfound (found : Value) (hrest : child.lookup path = some found) :
          root.lookup (segment :: path) = some found := by
        rw [Value.lookup_cons, hchild, Option.bind_some, hrest]
      intro observed hcovers
      cases root <;> cases segment <;> try contradiction
      case map.key fields name =>
        have hbelow : Position.Level .entry path := by cases position <;> exact hlevel
        have hstands : StandsIn skip .entry (child.modify f path) (child.modify g path) := by
          apply ih hbelow hformed
          intro found hrest
          cases position <;> exact h found (hfound found hrest)
        -- The entry was changed either way, so one changed map is the other one with it replaced.
        have hinsert := hcovers.insert (Fields.ascending_insert hwell.1 name _)
          (Fields.get?_insert_self _ _ _) hstands
        rwa [Fields.insert_insert] at hinsert
      case list.index items i =>
        cases position with
        | item => contradiction
        | entry =>
          obtain ⟨place, hplace, hget⟩ := Option.bind_eq_some_iff.mp hchild
          have hstands : StandsIn skip .item (child.modify f path) (child.modify g path) :=
            ih hlevel hformed fun found hrest ↦ h found (hfound found hrest)
          have hlt : place < items.length := (List.getElem?_eq_some_iff.mp hget).1
          rw [Value.setChild_index hplace] at hcovers ⊢
          have hset := hcovers.set (List.getElem?_set_self hlt) hstands
          rwa [List.set_set] at hset

/-- A part may be replaced by what stands in for it. -/
theorem StandsIn.of_modify {f : Value → Value} {path : Path} (hlevel : position.Level path)
    {root : Value} (hwell : root.WellFormed)
    (h : ∀ found, root.lookup path = some found →
      StandsIn skip (position.after path) (f found) found) :
    StandsIn skip position (root.modify f path) root := by
  have hsame : root.modify id path = root := Value.modify_eq_self hwell fun _ _ ↦ rfl
  have hmodify := StandsIn.modify hlevel hwell (g := id) h
  rwa [hsame] at hmodify

theorem Position.level_of_open {path : Path} (h : position.Open path) :
    position.Level path ∧ position.after path = .item := by
  induction path generalizing position with
  | nil => cases position <;> first | exact ⟨trivial, rfl⟩ | contradiction
  | cons segment path ih =>
    cases segment with
    | key => cases position <;> exact ih h
    | index => cases position <;> first | exact ih h | contradiction

/-- A document goes on to agree when a map that may have more keys gets a field that it lacks. -/
theorem Covers.create? {fields : Fields} {path : Path} (hopen : position.Open path)
    {desired observed after : Value} (hdesired : desired.WellFormed)
    (hcovers : Covers skip position desired observed)
    (hfields : desired.lookup path = some (.map fields)) {name : String}
    (hmissing : Fields.get? fields name = none) {value : Value}
    (hafter : desired.create? (path ++ [.key name]) value = some after) :
    Covers skip position after observed := by
  obtain ⟨hlevel, hitem⟩ := Position.level_of_open hopen
  have hset : (Value.map fields).create? [.key name] value =
      some (.map (Fields.insert fields name value)) := by
    rw [Value.create?_cons, Value.childOrMap?, Option.bind_some, Value.create?_nil]
    rfl
  rw [Value.create?_append hfields rfl, Value.modify?_of_lookup hfields, hset] at hafter
  cases hafter
  refine StandsIn.of_modify hlevel hdesired (fun found hfound ↦ ?_) observed hcovers
  cases hfields.symm.trans hfound
  rw [hitem]
  exact .insert hmissing value

/-- Neither of two values covers anything that the other one does not. -/
def Interchangeable (skip : SkipSet) (position : Position) (value other : Value) : Prop :=
  StandsIn skip position value other ∧ StandsIn skip position other value

namespace Interchangeable

theorem refl (value : Value) : Interchangeable skip position value value :=
  ⟨.refl value, .refl value⟩

variable {a b c : Value}

theorem symm (h : Interchangeable skip position a b) : Interchangeable skip position b a := And.symm h

theorem trans (hab : Interchangeable skip position a b) (hbc : Interchangeable skip position b c) :
    Interchangeable skip position a c :=
  ⟨fun observed h ↦ hab.1 observed (hbc.1 observed h),
    fun observed h ↦ hbc.2 observed (hab.2 observed h)⟩

theorem of_equal (hwell : a.WellFormed) (h : (a == b) = true) : Interchangeable skip position a b := by
  have hother : b.WellFormed := Value.wellFormed_of_equal a b h hwell
  have hback : (b == a) = true := (Value.beq_comm b a).trans h
  have hab : Covers skip position a b := covers_of_equal skip b a hother h position
  have hba : Covers skip position b a := covers_of_equal skip a b hwell hback position
  exact ⟨fun _ hcovers ↦ hab.trans hcovers, fun _ hcovers ↦ hba.trans hcovers⟩

theorem list {items others : List Value} (hlength : items.length = others.length)
    (h : ∀ (n : Nat) item other, items[n]? = some item → others[n]? = some other →
      Interchangeable skip .item item other) :
    Interchangeable skip .entry (.list items) (.list others) :=
  ⟨.list hlength fun n item other hitem hother ↦ (h n item other hitem hother).1,
    .list hlength.symm fun n other item hother hitem ↦ (h n item other hitem hother).2⟩

/-- One place of a list may hold either of two interchangeable items. -/
theorem set (items : List Value) (place : Nat) (h : Interchangeable skip .item a b) :
    Interchangeable skip .entry (.list (items.set place a)) (.list (items.set place b)) := by
  apply list
  · rw [List.length_set, List.length_set]
  · intro n item other hitem hother
    by_cases hn : place = n
    · subst hn
      have hlt : place < items.length := by
        rw [← List.length_set]
        exact (List.getElem?_eq_some_iff.mp hitem).1
      rw [List.getElem?_set_self hlt] at hitem hother
      cases hitem
      cases hother
      exact h
    · rw [List.getElem?_set_ne hn] at hitem hother
      cases hitem.symm.trans hother
      exact .refl item

/-- An item may be another one if what a function makes of the two is interchangeable. -/
theorem map_set {f : Value → Value} {items : List Value} {place : Nat}
    (hitem : items[place]? = some a) (h : Interchangeable skip .item (f a) (f b)) :
    Interchangeable skip .entry (.list (items.map f)) (.list ((items.set place b).map f)) := by
  obtain ⟨hlt, rfl⟩ := List.getElem?_eq_some_iff.mp hitem
  have hsame : items.map f = (items.map f).set place (f items[place]) := by
    rw [← List.map_set, List.set_getElem_self]
  rw [hsame, List.map_set]
  exact set _ _ h

/-- Maps in a list are interchangeable where their counting entries are the same or so. -/
theorem map {fields others : Fields}
    (h : ∀ key, skip.contains key = false → Fields.get? fields key = Fields.get? others key ∨
      ∃ value other, Fields.get? fields key = some value ∧ Fields.get? others key = some other ∧
        Interchangeable skip .entry value other) :
    Interchangeable skip .item (.map fields) (.map others) := by
  constructor
  · apply StandsIn.map
    intro key other hcounts hother
    rcases h key hcounts with hsame | ⟨value, other', hvalue, hother', hboth⟩
    · exact ⟨other, hsame.trans hother, .refl other⟩
    · cases hother.symm.trans hother'
      exact ⟨value, hvalue, hboth.1⟩
  · apply StandsIn.map
    intro key value hcounts hvalue
    rcases h key hcounts with hsame | ⟨value', other, hvalue', hother, hboth⟩
    · exact ⟨value, hsame.symm.trans hvalue, .refl value⟩
    · cases hvalue.symm.trans hvalue'
      exact ⟨other, hother, hboth.2⟩

/-- Documents are interchangeable if their counting entries are the same. -/
theorem of_field? (ha : a.asMap.isSome) (hb : b.asMap.isSome)
    (h : ∀ key, skip.contains key = false → a.field? key = b.field? key) :
    Interchangeable skip .item a b := by
  cases a <;> cases b <;> try contradiction
  exact map fun key hkey ↦ .inl (h key hkey)

theorem modify {f g : Value → Value} {path : Path} (hlevel : position.Level path)
    {root : Value} (hwell : root.WellFormed)
    (h : ∀ found, root.lookup path = some found →
      Interchangeable skip (position.after path) (f found) (g found)) :
    Interchangeable skip position (root.modify f path) (root.modify g path) :=
  ⟨.modify hlevel hwell fun found hfound ↦ (h found hfound).1,
    .modify hlevel hwell fun found hfound ↦ (h found hfound).2⟩

theorem agree_eq (h : Interchangeable skip .item a b) (observed : Value) :
    agree skip a observed = agree skip b observed := by
  rw [Bool.eq_iff_iff, agree_iff_covers, agree_iff_covers]
  exact ⟨h.2 observed, h.1 observed⟩

end Interchangeable

end ClusterRouter.Drift
