import ClusterRouter.Proofs.Binary64.Exact
import ClusterRouter.Proofs.Value.Fields
import ClusterRouter.Value.Equality

/-!
# Laws of value equality

A value is equal to itself exactly when it holds no NaN, and equality is symmetric and transitive:
numbers are equal when they have one exact value, whichever way each is held. Equal lists have
equal items at equal positions, and equal maps have equal entries under equal keys, so what is
found in one of two equal values is found in the other.
-/

namespace ClusterRouter

theorem Binary64.equal_self (x : Binary64) : x.equal x = !x.isNaN := by
  simp [Binary64.equal]

theorem Binary64.equal_comm (x y : Binary64) : x.equal y = y.equal x := by
  unfold Binary64.equal
  rw [Bool.and_comm (!x.isNaN), Bool.beq_comm, Bool.and_comm x.isZero]

namespace Value

mutual

/-- A value holds NaN at some depth. -/
def hasNaN : Value → Bool
  | .float x => x.isNaN
  | .list items => anyNaN items
  | .map fields => anyNaNField fields
  | _ => false

def anyNaN : List Value → Bool
  | [] => false
  | item :: items => hasNaN item || anyNaN items

def anyNaNField : List (String × Value) → Bool
  | [] => false
  | (_, value) :: fields => hasNaN value || anyNaNField fields

end

mutual

/-- The keys of every map in a value ascend, as those of maps that are read or built do. -/
def WellFormed : Value → Prop
  | .list items => ItemsWellFormed items
  | .map fields => Fields.Ascending fields ∧ FieldsWellFormed fields
  | _ => True

def ItemsWellFormed : List Value → Prop
  | [] => True
  | item :: items => WellFormed item ∧ ItemsWellFormed items

def FieldsWellFormed : List (String × Value) → Prop
  | [] => True
  | (_, value) :: fields => WellFormed value ∧ FieldsWellFormed fields

end

/-! ### Equality with itself, and in the other order -/

mutual

theorem equal_self : ∀ value : Value, equal value value = !hasNaN value
  | .null | .bool _ | .int _ | .string _ => by simp [equal, hasNaN]
  | .float x => by rw [equal, hasNaN, Binary64.equal_self]
  | .list items => by rw [equal, hasNaN, equalItems_self items]
  | .map fields => by rw [equal, hasNaN, equalFields_self fields]

theorem equalItems_self : ∀ items : List Value, equalItems items items = !anyNaN items
  | [] => rfl
  | item :: items => by rw [equalItems, anyNaN, equal_self item, equalItems_self items, Bool.not_or]

theorem equalFields_self :
    ∀ fields : List (String × Value), equalFields fields fields = !anyNaNField fields
  | [] => rfl
  | (key, value) :: fields => by
    rw [equalFields, anyNaNField, equal_self value, equalFields_self fields, Bool.not_or,
      beq_self_eq_true, Bool.true_and]

end

mutual

theorem equal_comm : ∀ a b : Value, equal a b = equal b a
  | .null, b => by cases b <;> rfl
  | .bool _, b => by
    cases b with
    | bool _ => exact Bool.beq_comm
    | _ => rfl
  | .int _, b => by
    cases b with
    | int _ => exact Bool.beq_comm
    | _ => rfl
  | .float x, b => by
    cases b with
    | float y => exact Binary64.equal_comm x y
    | _ => rfl
  | .string _, b => by
    cases b with
    | string _ => exact Bool.beq_comm
    | _ => rfl
  | .list xs, b => by
    cases b with
    | list ys => exact equalItems_comm xs ys
    | _ => rfl
  | .map xs, b => by
    cases b with
    | map ys => exact equalFields_comm xs ys
    | _ => rfl

theorem equalItems_comm : ∀ xs ys : List Value, equalItems xs ys = equalItems ys xs
  | [], [] => rfl
  | [], _ :: _ => rfl
  | _ :: _, [] => rfl
  | x :: xs, y :: ys => by rw [equalItems, equalItems, equal_comm x y, equalItems_comm xs ys]

theorem equalFields_comm :
    ∀ xs ys : List (String × Value), equalFields xs ys = equalFields ys xs
  | [], [] => rfl
  | [], _ :: _ => rfl
  | _ :: _, [] => rfl
  | (k, x) :: xs, (l, y) :: ys => by
    rw [equalFields, equalFields, equal_comm x y, equalFields_comm xs ys, Bool.beq_comm]

end

theorem hasNaN_of_mem_fields {fields : Fields} (h : anyNaNField fields = false) :
    ∀ entry ∈ fields, hasNaN entry.2 = false := by
  induction fields with
  | nil => simp
  | cons entry rest ih =>
    obtain ⟨hentry, hrest⟩ := Bool.or_eq_false_iff.mp h
    exact List.forall_mem_cons.mpr ⟨hentry, ih hrest⟩

theorem beq_eq_equal (a b : Value) : (a == b) = equal a b := rfl

theorem beq_comm (a b : Value) : (a == b) = (b == a) := equal_comm a b

theorem beq_self {value : Value} (h : value.hasNaN = false) : (value == value) = true := by
  rw [beq_eq_equal, equal_self, h, Bool.not_false]

theorem contains_iff {items : List Value} {value : Value} :
    items.contains value = true ↔ ∃ item ∈ items, (item == value) = true := by
  simp only [List.contains_iff_exists_mem_beq, beq_comm value]

/-! ### Parts of equal values -/

theorem exists_list_of_beq {xs : List Value} {b : Value} (h : (Value.list xs == b) = true) :
    ∃ ys, b = .list ys ∧ equalItems xs ys = true := by
  cases b with
  | list ys => exact ⟨ys, rfl, h⟩
  | _ => contradiction

theorem exists_map_of_beq {xs : Fields} {b : Value} (h : (Value.map xs == b) = true) :
    ∃ ys, b = .map ys ∧ equalFields xs ys = true := by
  cases b with
  | map ys => exact ⟨ys, rfl, h⟩
  | _ => contradiction

theorem equalItems_cons {x y : Value} {xs ys : List Value} :
    equalItems (x :: xs) (y :: ys) = true ↔ (x == y) = true ∧ equalItems xs ys = true := by
  rw [equalItems, Bool.and_eq_true, beq_eq_equal]

theorem equalFields_cons {k l : String} {x y : Value} {xs ys : List (String × Value)} :
    equalFields ((k, x) :: xs) ((l, y) :: ys) = true ↔
      k = l ∧ (x == y) = true ∧ equalFields xs ys = true := by
  rw [equalFields, Bool.and_eq_true, Bool.and_eq_true, beq_iff_eq, beq_eq_equal, and_assoc]

/-! ### Numbers, and equality through a third value -/

def isNumber : Value → Bool
  | .int _ | .float _ => true
  | _ => false

/-- The exact value of a number. -/
def exactValue? : Value → Option Binary64.Exact
  | .int i => some (.ofInt i.toInt)
  | .float x => x.exactValue?
  | _ => none

theorem isNumber_of_exactValue? {value : Value} {number : Binary64.Exact}
    (h : value.exactValue? = some number) : value.isNumber = true := by
  cases value <;> first | rfl | contradiction

/-- A number is equal to what has its exact value. -/
theorem equal_number_iff {a : Value} (ha : a.isNumber = true) (b : Value) :
    equal a b = true ↔ ∃ number, a.exactValue? = some number ∧ b.exactValue? = some number := by
  cases a <;> try contradiction
  case int i => cases b with
    | int j =>
      simp only [equal, exactValue?, beq_iff_eq, Option.some.injEq, exists_eq_left']
      constructor
      · intro hij
        rw [hij]
      · intro hsame
        exact Int64.toInt_inj.mp (Binary64.Exact.ofInt_injective hsame).symm
    | float y => simp [equal, exactValue?, Binary64.equalsInt_iff]
    | _ => simp [equal, exactValue?]
  case float x => cases b with
    | int j => simp [equal, exactValue?, Binary64.equalsInt_iff]
    | float y => exact Binary64.equal_iff
    | _ => simp [equal, exactValue?]

theorem equal_trans_of_isNumber {a b c : Value} (ha : a.isNumber = true)
    (hab : equal a b = true) (hbc : equal b c = true) : equal a c = true := by
  obtain ⟨number, hfirst, hsecond⟩ := (equal_number_iff ha b).mp hab
  have hb : b.isNumber = true := isNumber_of_exactValue? hsecond
  obtain ⟨other, hother, hthird⟩ := (equal_number_iff hb c).mp hbc
  have hsame : number = other := Option.some.inj (hsecond.symm.trans hother)
  exact (equal_number_iff ha c).mpr ⟨number, hfirst, hsame ▸ hthird⟩

mutual

theorem equal_trans : ∀ a b c : Value, equal a b = true → equal b c = true → equal a c = true
  | .null, b, c, hab, hbc => by cases b <;> first | exact hbc | contradiction
  | .bool p, b, c, hab, hbc => by
    cases b <;> try contradiction
    case bool q =>
      have hpq : p = q := eq_of_beq hab
      exact hpq ▸ hbc
  | .string s, b, c, hab, hbc => by
    cases b <;> try contradiction
    case string t =>
      have hst : s = t := eq_of_beq hab
      exact hst ▸ hbc
  | .int _, _, _, hab, hbc => equal_trans_of_isNumber rfl hab hbc
  | .float _, _, _, hab, hbc => equal_trans_of_isNumber rfl hab hbc
  | .list xs, _, _, hab, hbc => by
    obtain ⟨ys, rfl, hxy⟩ := exists_list_of_beq hab
    obtain ⟨zs, rfl, hyz⟩ := exists_list_of_beq hbc
    exact equalItems_trans xs ys zs hxy hyz
  | .map xs, _, _, hab, hbc => by
    obtain ⟨ys, rfl, hxy⟩ := exists_map_of_beq hab
    obtain ⟨zs, rfl, hyz⟩ := exists_map_of_beq hbc
    exact equalFields_trans xs ys zs hxy hyz

theorem equalItems_trans : ∀ xs ys zs : List Value, equalItems xs ys = true →
    equalItems ys zs = true → equalItems xs zs = true
  | [], [], _, _, hyz => hyz
  | x :: xs, y :: ys, z :: zs, hxy, hyz => by
    obtain ⟨hx, hxs⟩ := equalItems_cons.mp hxy
    obtain ⟨hy, hys⟩ := equalItems_cons.mp hyz
    exact equalItems_cons.mpr ⟨equal_trans x y z hx hy, equalItems_trans xs ys zs hxs hys⟩

theorem equalFields_trans : ∀ xs ys zs : List (String × Value), equalFields xs ys = true →
    equalFields ys zs = true → equalFields xs zs = true
  | [], [], _, _, hyz => hyz
  | (_, x) :: xs, (_, y) :: ys, (_, z) :: zs, hxy, hyz => by
    obtain ⟨hk, hx, hxs⟩ := equalFields_cons.mp hxy
    obtain ⟨hl, hy, hys⟩ := equalFields_cons.mp hyz
    exact equalFields_cons.mpr
      ⟨hk.trans hl, equal_trans x y z hx hy, equalFields_trans xs ys zs hxs hys⟩

end

theorem beq_trans {a b c : Value} (hab : (a == b) = true) (hbc : (b == c) = true) :
    (a == c) = true := equal_trans a b c hab hbc

/-! ### Where equal values agree -/

theorem length_eq_of_equalItems {xs ys : List Value} (h : equalItems xs ys = true) :
    xs.length = ys.length := by
  induction xs generalizing ys with
  | nil => cases ys with
    | nil => rfl
    | cons => contradiction
  | cons x xs ih => cases ys with
    | nil => contradiction
    | cons y ys => rw [List.length_cons, List.length_cons, ih (equalItems_cons.mp h).2]

theorem getElem?_beq_of_equalItems {xs ys : List Value} (h : equalItems xs ys = true)
    (place : Nat) : (xs[place]? == ys[place]?) = true := by
  induction xs generalizing ys place with
  | nil => cases ys with
    | nil => rfl
    | cons => contradiction
  | cons x xs ih => cases ys with
    | nil => contradiction
    | cons y ys =>
      obtain ⟨hhead, htail⟩ := equalItems_cons.mp h
      cases place with
      | zero => exact hhead
      | succ place => exact ih htail place

/-- Lists of one length are equal when their items are, place by place. -/
theorem equalItems_of_getElem? {xs ys : List Value} (hlength : xs.length = ys.length)
    (h : ∀ (n : Nat) x y, xs[n]? = some x → ys[n]? = some y → (x == y) = true) :
    equalItems xs ys = true := by
  induction xs generalizing ys with
  | nil => cases ys with
    | nil => rfl
    | cons => contradiction
  | cons x xs ih => cases ys with
    | nil => contradiction
    | cons y ys =>
      have htail : equalItems xs ys = true :=
        ih (Nat.succ.inj hlength) fun n ↦ h (n + 1)
      exact equalItems_cons.mpr ⟨h 0 x y rfl rfl, htail⟩

theorem keys_eq_of_equalFields {xs ys : Fields} (h : equalFields xs ys = true) :
    Fields.keys xs = Fields.keys ys := by
  induction xs generalizing ys with
  | nil => cases ys with
    | nil => rfl
    | cons => contradiction
  | cons entry xs ih => cases ys with
    | nil => contradiction
    | cons other ys =>
      obtain ⟨hkey, -, htail⟩ := equalFields_cons.mp h
      exact congrArg₂ List.cons hkey (ih htail)

theorem length_eq_of_equalFields {xs ys : Fields} (h : equalFields xs ys = true) :
    xs.length = ys.length := by
  simpa [Fields.keys] using congrArg List.length (keys_eq_of_equalFields h)

theorem get?_beq_of_equalFields {xs ys : Fields} (h : equalFields xs ys = true) (key : String) :
    (Fields.get? xs key == Fields.get? ys key) = true := by
  induction xs generalizing ys with
  | nil => cases ys with
    | nil => rfl
    | cons => contradiction
  | cons entry xs ih => cases ys with
    | nil => contradiction
    | cons other ys =>
      obtain ⟨k, x⟩ := entry
      obtain ⟨l, y⟩ := other
      obtain ⟨rfl, hvalue, htail⟩ := equalFields_cons.mp h
      by_cases hk : k = key
      · simpa [Fields.get?, hk] using hvalue
      · simpa [Fields.get?, hk] using ih htail

/-- Maps of the same keys are equal when the entries of one have their like in the other. -/
theorem equalFields_of_entries {xs ys : Fields} (hasc : Fields.Ascending ys)
    (hkeys : Fields.keys xs = Fields.keys ys)
    (h : ∀ entry ∈ ys, ∀ x, Fields.get? xs entry.1 = some x → (x == entry.2) = true) :
    equalFields xs ys = true := by
  induction ys generalizing xs with
  | nil => cases xs with
    | nil => rfl
    | cons => contradiction
  | cons entry ys ih => cases xs with
    | nil => contradiction
    | cons other xs =>
      obtain ⟨l, y⟩ := entry
      obtain ⟨k, x⟩ := other
      obtain ⟨rfl, hrest⟩ : k = l ∧ Fields.keys xs = Fields.keys ys := List.cons.inj hkeys
      obtain ⟨hhead, htail⟩ := List.forall_mem_cons.mp h
      refine equalFields_cons.mpr ⟨rfl, hhead x (if_pos rfl), ih hasc.tail hrest ?_⟩
      intro entry hmem x' hget
      have hlt : k < entry.1 := hasc.head_lt (List.mem_map_of_mem hmem)
      exact htail entry hmem x' (by rw [Fields.get?, if_neg (String.ne_of_lt hlt), hget])

/-- An entry of one of two equal values has its like in the other. -/
theorem field?_beq {a b : Value} (h : (a == b) = true) (key : String) :
    (a.field? key == b.field? key) = true := by
  cases a with
  | map xs =>
    obtain ⟨ys, rfl, hfields⟩ := exists_map_of_beq h
    exact get?_beq_of_equalFields hfields key
  | _ => cases b <;> first | rfl | contradiction

/-- What is found where equal values are asked is missing in both, or equal. -/
theorem cases_of_option_beq {found other : Option Value} (h : (found == other) = true) :
    (found = none ∧ other = none) ∨
      ∃ a b, found = some a ∧ other = some b ∧ (a == b) = true := by
  cases found with
  | none => cases other with
    | none => exact .inl ⟨rfl, rfl⟩
    | some b => contradiction
  | some a => cases other with
    | none => contradiction
    | some b => exact .inr ⟨a, b, rfl, rfl, h⟩

theorem asString_congr {a b : Value} (h : (a == b) = true) : a.asString = b.asString := by
  cases a <;> cases b <;> first | rfl | contradiction | skip
  next s t =>
    have hequal : (s == t) = true := h
    rw [eq_of_beq hequal]

theorem eq_null_of_isNull {value : Value} (h : value.isNull = true) : value = .null := by
  cases value <;> first | rfl | contradiction

theorem isNull_congr {a b : Value} (h : (a == b) = true) : a.isNull = b.isNull := by
  cases a <;> cases b <;> first | rfl | contradiction

theorem eq_string_of_beq {a : Value} {s : String} (h : (a == .string s) = true) :
    a = .string s := by
  have hstring := asString_congr h
  cases a <;> cases hstring
  rfl

/-- Equal values have the same text under a key. -/
theorem asString_field?_congr {a b : Value} (h : (a == b) = true) (key : String) :
    (a.field? key).bind asString = (b.field? key).bind asString := by
  rcases cases_of_option_beq (field?_beq h key) with ⟨ha, hb⟩ | ⟨found, other, ha, hb, hequal⟩
  · rw [ha, hb]
  · rw [ha, hb, Option.bind_some, Option.bind_some, asString_congr hequal]

/-! ### Maps in order -/

mutual

theorem wellFormed_of_equal : ∀ a b : Value, equal a b = true → WellFormed a → WellFormed b
  | .list xs, b, h, hxs => by
    obtain ⟨ys, rfl, hitems⟩ := exists_list_of_beq h
    exact itemsWellFormed_of_equal xs ys hitems hxs
  | .map xs, b, h, hxs => by
    obtain ⟨ys, rfl, hfields⟩ := exists_map_of_beq h
    refine ⟨?_, fieldsWellFormed_of_equal xs ys hfields hxs.2⟩
    rw [Fields.Ascending, ← keys_eq_of_equalFields hfields]
    exact hxs.1
  | .null, b, h, _ | .bool _, b, h, _ | .int _, b, h, _ | .float _, b, h, _
  | .string _, b, h, _ => by cases b <;> trivial

theorem itemsWellFormed_of_equal : ∀ xs ys : List Value, equalItems xs ys = true →
    ItemsWellFormed xs → ItemsWellFormed ys
  | [], [], _, _ => trivial
  | x :: xs, y :: ys, h, hxs =>
    ⟨wellFormed_of_equal x y (equalItems_cons.mp h).1 hxs.1,
      itemsWellFormed_of_equal xs ys (equalItems_cons.mp h).2 hxs.2⟩

theorem fieldsWellFormed_of_equal : ∀ xs ys : List (String × Value), equalFields xs ys = true →
    FieldsWellFormed xs → FieldsWellFormed ys
  | [], [], _, _ => trivial
  | (_, x) :: xs, (_, y) :: ys, h, hxs =>
    ⟨wellFormed_of_equal x y (equalFields_cons.mp h).2.1 hxs.1,
      fieldsWellFormed_of_equal xs ys (equalFields_cons.mp h).2.2 hxs.2⟩

end

theorem WellFormed.get? {fields : Fields} (h : FieldsWellFormed fields) {key : String}
    {value : Value} (hget : Fields.get? fields key = some value) : WellFormed value := by
  induction fields with
  | nil => contradiction
  | cons entry rest ih =>
    obtain ⟨k, v⟩ := entry
    unfold Fields.get? at hget
    split at hget
    · cases hget
      exact h.1
    · exact ih h.2 hget

theorem WellFormed.getElem? {items : List Value} (h : ItemsWellFormed items) {place : Nat}
    {value : Value} (hget : items[place]? = some value) : WellFormed value := by
  induction items generalizing place with
  | nil => contradiction
  | cons item rest ih =>
    cases place with
    | zero =>
      cases hget
      exact h.1
    | succ place => exact ih h.2 hget

theorem itemsWellFormed_iff {items : List Value} :
    ItemsWellFormed items ↔ ∀ item ∈ items, WellFormed item := by
  induction items with
  | nil => simp [ItemsWellFormed]
  | cons item items ih => rw [ItemsWellFormed, List.forall_mem_cons, ih]

theorem fieldsWellFormed_insert {fields : Fields} (h : FieldsWellFormed fields) (key : String)
    {value : Value} (hvalue : WellFormed value) :
    FieldsWellFormed (Fields.insert fields key value) := by
  fun_induction Fields.insert fields key value with
  | case1 => exact ⟨hvalue, trivial⟩
  | case2 => exact ⟨hvalue, h.2⟩
  | case3 => exact ⟨hvalue, h⟩
  | case4 k v rest key value _ _ ih => exact ⟨h.1, ih h.2 hvalue⟩

theorem fieldsWellFormed_erase {fields : Fields} (h : FieldsWellFormed fields) (key : String) :
    FieldsWellFormed (Fields.erase fields key) := by
  induction fields with
  | nil => trivial
  | cons entry rest ih =>
    rw [Fields.erase]
    split
    · exact h.2
    · exact ⟨h.1, ih h.2⟩

theorem itemsWellFormed_set {items : List Value} (h : ItemsWellFormed items) (place : Nat)
    {value : Value} (hvalue : WellFormed value) : ItemsWellFormed (items.set place value) := by
  induction items generalizing place with
  | nil => trivial
  | cons item rest ih =>
    cases place with
    | zero => exact ⟨hvalue, h.2⟩
    | succ place => exact ⟨h.1, ih h.2 place⟩

theorem itemsWellFormed_modify {items : List Value} (h : ItemsWellFormed items) (place : Nat)
    {f : Value → Value} (hf : ∀ item : Value, item.WellFormed → (f item).WellFormed) :
    ItemsWellFormed (items.modify place f) := by
  rw [List.modify_eq_set_getElem?]
  cases hitem : items[place]? with
  | none => exact h
  | some item => exact itemsWellFormed_set h place (hf item (WellFormed.getElem? h hitem))

end Value

end ClusterRouter
