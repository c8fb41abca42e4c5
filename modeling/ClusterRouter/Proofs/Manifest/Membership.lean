import ClusterRouter.Manifest.RoleBinding
import ClusterRouter.Proofs.Document.Presence
import ClusterRouter.Proofs.Value.Congruence

/-!
# Membership in lists

A list without equal items is a set whose items keep the order in which they came. A call adds an
item unless an equal one is there, or removes the one that is equal. After a row of calls, the last
call about an item says whether it is in its list, and the items that no call removes come first, in
their order.
-/

namespace ClusterRouter.RoleBinding

open Document (Distinct ensured)

/-! ### Lists as sets -/

section

variable {items : List Value} {value : Value}

/-- The items that are not equal to a value. -/
def without (items : List Value) (value : Value) : List Value :=
  items.filter fun item ↦ !(item == value)

/-- Of items of which no two are equal, one is removed at most. -/
theorem eraseP_eq_without (h : Distinct items) (value : Value) :
    items.eraseP (· == value) = without items value := by
  unfold without
  induction items with
  | nil => rfl
  | cons first items ih =>
    obtain ⟨hfirst, hitems⟩ := List.pairwise_cons.mp h
    rw [List.eraseP_cons, List.filter_cons]
    cases hequal : first == value with
    | false =>
      rw [cond_false, Bool.not_false, if_pos rfl, ih hitems]
    | true =>
      rw [cond_true, Bool.not_true, if_neg Bool.false_ne_true]
      symm
      apply List.filter_eq_self.mpr
      intro item hitem
      rw [Value.beq_comm item value, ← Value.beq_congr hequal, hfirst item hitem, Bool.not_false]

theorem contains_of_beq {other : Value} (h : (value == other) = true) :
    items.contains value = items.contains other := by
  apply Bool.eq_iff_iff.mpr
  simp only [Value.contains_iff, Value.beq_comm _ value, Value.beq_comm _ other, Value.beq_congr h]

theorem contains_ensured {added : Value} (hadded : added.hasNaN = false) (items : List Value)
    (value : Value) :
    (ensured items added).contains value = (added == value || items.contains value) := by
  unfold ensured
  cases hequal : added == value with
  | true =>
    rw [Bool.true_or, ← contains_of_beq hequal]
    split
    · assumption
    · exact Document.contains_append_self hadded items
  | false =>
    rw [Bool.false_or]
    split
    · rfl
    · simp [List.contains_append, Value.beq_comm value added, hequal]

theorem contains_without (items : List Value) (removed value : Value) :
    (without items removed).contains value = (!(removed == value) && items.contains value) := by
  apply Bool.eq_iff_iff.mpr
  rw [Bool.and_eq_true, Value.contains_iff, Value.contains_iff]
  constructor
  · rintro ⟨item, hitem, hequal⟩
    obtain ⟨hmem, hkept⟩ := List.mem_filter.mp hitem
    rw [Value.beq_congr hequal, Value.beq_comm] at hkept
    exact ⟨hkept, item, hmem, hequal⟩
  · rintro ⟨hkept, item, hmem, hequal⟩
    rw [Value.beq_comm, ← Value.beq_congr hequal] at hkept
    exact ⟨item, List.mem_filter.mpr ⟨hmem, hkept⟩, hequal⟩

theorem distinct_ensured (h : Distinct items) (value : Value) : Distinct (ensured items value) := by
  obtain ⟨added, hadded, -, hkeeps⟩ := Document.exists_ensured_eq items value
  rw [hadded]
  exact hkeeps h

theorem distinct_without (h : Distinct items) (value : Value) : Distinct (without items value) :=
  List.Pairwise.filter _ h

end

/-! ### Calls -/

/-- The lists of a role binding. -/
inductive Listing where
  | subjects
  | groupNames
  | userNames
deriving DecidableEq

namespace Listing

def path : Listing → String
  | subjects => subjectsPath
  | groupNames => groupNamesPath
  | userNames => userNamesPath

def items : Listing → Document → List Value
  | subjects => RoleBinding.subjects
  | groupNames => RoleBinding.groupNames
  | userNames => RoleBinding.userNames

theorem items_eq (listing : Listing) (document : Document) :
    listing.items document = listAt document listing.path := by
  cases listing <;> rfl

theorem path_injective {first second : Listing} (h : first.path = second.path) : first = second := by
  cases first <;> cases second <;> first | rfl | exact absurd h (by decide)

end Listing

/-- A call that adds to one of the lists or removes from it. -/
inductive Call where
  | addSubject (subject : Value)
  | removeSubject (subject : Value)
  | addGroupName (name : String)
  | removeGroupName (name : String)
  | addUserName (name : String)
  | removeUserName (name : String)

namespace Call

def perform : Call → Editing Bool
  | addSubject subject => RoleBinding.addSubject subject
  | removeSubject subject => RoleBinding.removeSubject subject
  | addGroupName name => RoleBinding.addGroupName name
  | removeGroupName name => RoleBinding.removeGroupName name
  | addUserName name => RoleBinding.addUserName name
  | removeUserName name => RoleBinding.removeUserName name

/-- The list that a call is for. -/
def listing : Call → Listing
  | addSubject _ | removeSubject _ => .subjects
  | addGroupName _ | removeGroupName _ => .groupNames
  | addUserName _ | removeUserName _ => .userNames

/-- The item that a call adds or removes. -/
def item : Call → Value
  | addSubject subject | removeSubject subject => subject
  | addGroupName name | removeGroupName name | addUserName name | removeUserName name =>
    .string name

def adds : Call → Bool
  | addSubject _ | addGroupName _ | addUserName _ => true
  | removeSubject _ | removeGroupName _ | removeUserName _ => false

/-- The call is about an item of a list: it names an equal one. -/
def concerns (listing : Listing) (value : Value) (call : Call) : Bool :=
  decide (call.listing = listing) && call.item == value

/-- What a call makes of the items of its list. -/
def change (items : List Value) (call : Call) : List Value :=
  if call.adds then ensured items call.item else without items call.item

end Call

/-- Adds an item to the list at a path unless an equal one is there. -/
def addTo (path : String) (item : Value) : Editing Bool := do
  if (listAt (← get) path).contains item then pure false else Document.append path item

theorem perform_eq (call : Call) :
    call.perform = if call.adds then addTo call.listing.path call.item
      else Document.pop call.listing.path call.item := by
  cases call <;> rfl

section

variable {call : Call} {items : List Value}

theorem distinct_change (h : Distinct items) (call : Call) : Distinct (call.change items) := by
  unfold Call.change
  split
  · exact distinct_ensured h call.item
  · exact distinct_without h call.item

/-- What a call names is in its list afterwards if the call adds it, and all else is there if it was
there before. -/
theorem contains_change (hcall : call.item.hasNaN = false) (items : List Value) (value : Value) :
    (call.change items).contains value =
      if call.item == value then call.adds else items.contains value := by
  unfold Call.change
  cases call.adds with
  | true =>
    rw [if_pos rfl, contains_ensured hcall]
    cases call.item == value <;> rfl
  | false =>
    rw [if_neg Bool.false_ne_true, contains_without]
    cases call.item == value <;> rfl

/-- A call that finds its item as it is to be leaves all items in their places. -/
theorem change_eq_self (h : items.contains call.item = call.adds) : call.change items = items := by
  unfold Call.change ensured
  cases hadds : call.adds with
  | true => rw [if_pos rfl, if_pos (h.trans hadds)]
  | false =>
    rw [if_neg Bool.false_ne_true]
    apply List.filter_eq_self.mpr
    intro item hitem
    have hnot : ¬(item == call.item) = true := fun hequal ↦
      Bool.false_ne_true ((h.trans hadds).symm.trans
        (Value.contains_iff.mpr ⟨item, hitem, hequal⟩))
    simpa using hnot

end

/-! ### Rows of calls on one list -/

/-- What a row of calls makes of the items of a list. -/
def Listing.itemsAfter (listing : Listing) (calls : List Call) (items : List Value) : List Value :=
  (calls.filter fun call ↦ call.listing = listing).foldl Call.change items

/-- What the last call about an item says of it, or what was so before if there is none. -/
def said (calls : List Call) (listing : Listing) (value : Value) (before : Bool) : Bool :=
  (calls.reverse.find? (Call.concerns listing value)).elim before Call.adds

/-- No call removes an equal item. -/
def stays (calls : List Call) (listing : Listing) (item : Value) : Bool :=
  calls.all fun call ↦ call.adds || !call.concerns listing item

section

variable {listing : Listing} {call : Call} {calls : List Call} {items : List Value}

theorem itemsAfter_cons (listing : Listing) (call : Call) (calls : List Call)
    (items : List Value) :
    listing.itemsAfter (call :: calls) items =
      listing.itemsAfter calls (if call.listing = listing then call.change items else items) := by
  unfold Listing.itemsAfter
  by_cases hlisting : call.listing = listing
  · rw [List.filter_cons_of_pos (by simpa using hlisting), List.foldl_cons, if_pos hlisting]
  · rw [List.filter_cons_of_neg (by simpa using hlisting), if_neg hlisting]

theorem itemsAfter_append (listing : Listing) (earlier later : List Call) (items : List Value) :
    listing.itemsAfter (earlier ++ later) items =
      listing.itemsAfter later (listing.itemsAfter earlier items) := by
  unfold Listing.itemsAfter
  rw [List.filter_append, List.foldl_append]

theorem said_cons (call : Call) (calls : List Call) (listing : Listing) (value : Value)
    (before : Bool) :
    said (call :: calls) listing value before =
      said calls listing value (if call.concerns listing value then call.adds else before) := by
  unfold said
  rw [List.reverse_cons, List.find?_append]
  cases calls.reverse.find? (Call.concerns listing value) with
  | some last => rfl
  | none =>
    rw [Option.none_or, List.find?_singleton]
    split <;> rfl

/-- The last call about an equal item decides whether an item is in the list. -/
theorem contains_itemsAfter (hcalls : ∀ call ∈ calls, call.item.hasNaN = false)
    (listing : Listing) (items : List Value) (value : Value) :
    (listing.itemsAfter calls items).contains value =
      said calls listing value (items.contains value) := by
  induction calls generalizing items with
  | nil => rfl
  | cons call calls ih =>
    obtain ⟨hcall, hrest⟩ := List.forall_mem_cons.mp hcalls
    rw [itemsAfter_cons, ih hrest, said_cons]
    congr 1
    unfold Call.concerns
    by_cases hlisting : call.listing = listing
    · rw [if_pos hlisting, contains_change hcall, decide_eq_true hlisting, Bool.true_and]
    · rw [if_neg hlisting, decide_eq_false hlisting, Bool.false_and, if_neg Bool.false_ne_true]

/-- The items that a call does not remove come first, in their order. -/
theorem filter_stays_isPrefix (call : Call) (listing : Listing) (items : List Value) :
    items.filter (stays [call] listing) <+:
      if call.listing = listing then call.change items else items := by
  split
  · next hlisting =>
    unfold Call.change
    split
    · next hadds =>
      obtain ⟨added, hadded, -, -⟩ := Document.exists_ensured_eq items call.item
      rw [hadded, List.filter_eq_self.mpr (by simp [stays, hadds])]
      exact List.prefix_append items added
    · next hadds =>
      have hsame : items.filter (stays [call] listing) = without items call.item := by
        apply List.filter_congr
        intro item _
        simp [stays, Call.concerns, hadds, hlisting, Value.beq_comm item]
      exact hsame ▸ List.prefix_rfl
  · next hlisting =>
    have hsame : items.filter (stays [call] listing) = items :=
      List.filter_eq_self.mpr (by simp [stays, Call.concerns, hlisting])
    exact hsame.symm ▸ List.prefix_rfl

theorem itemsAfter_isPrefix (listing : Listing) (calls : List Call) (items : List Value) :
    items.filter (stays calls listing) <+: listing.itemsAfter calls items := by
  induction calls generalizing items with
  | nil =>
    have hall : items.filter (stays [] listing) = items := List.filter_eq_self.mpr fun _ _ ↦ rfl
    rw [hall]
    exact List.prefix_rfl
  | cons call calls ih =>
    have hsplit : items.filter (stays (call :: calls) listing) =
        (items.filter (stays [call] listing)).filter (stays calls listing) := by
      rw [List.filter_filter]
      apply List.filter_congr
      intro item _
      simp [stays, Bool.and_comm]
    rw [hsplit, itemsAfter_cons]
    exact ((filter_stays_isPrefix call listing items).filter _).trans (ih _)

end

end ClusterRouter.RoleBinding
