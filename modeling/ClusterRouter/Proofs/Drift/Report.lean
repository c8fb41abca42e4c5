import ClusterRouter.Proofs.Drift.Comparison
import Mathlib.Data.List.Sort

/-!
# The reported mismatch

A mismatch names a place of the observed document that no skipped key leads to, and says of the two
values there what is true of them. It is the first one: all that is observed in front of each step
of its path agrees.
-/

namespace ClusterRouter

namespace Value

/-- A value with properties that its parts hand on to it has them. -/
theorem induction_on_parts {motive : Value → Prop}
    (plain : ∀ value : Value, value.isContainer = false → motive value)
    (list : ∀ items : List Value, (∀ item ∈ items, motive item) → motive (.list items))
    (map : ∀ fields : Fields, (∀ entry ∈ fields, motive entry.2) → motive (.map fields)) :
    ∀ value : Value, motive value
  | .list items => list items fun item _ ↦ induction_on_parts plain list map item
  | .map fields => map fields fun entry _ ↦ induction_on_parts plain list map entry.2
  | .null => plain .null rfl
  | .bool b => plain (.bool b) rfl
  | .int i => plain (.int i) rfl
  | .float x => plain (.float x) rfl
  | .string s => plain (.string s) rfl
termination_by value => sizeOf value
decreasing_by
  · have hlt := List.sizeOf_lt_of_mem ‹item ∈ items›
    simp only [Value.list.sizeOf_spec]
    omega
  · have hlt := List.sizeOf_lt_of_mem ‹entry ∈ fields›
    have hvalue : sizeOf entry.2 < sizeOf entry := by
      obtain ⟨key, value⟩ := entry
      simp
    simp only [Value.map.sizeOf_spec]
    omega

mutual

/-- No list in a value has more places than 64-bit indices count, as none that fits into memory
has. -/
def Addressable : Value → Prop
  | .list items => (items.length : Int) ≤ Int64.maxValue.toInt ∧ ItemsAddressable items
  | .map fields => FieldsAddressable fields
  | _ => True

def ItemsAddressable : List Value → Prop
  | [] => True
  | item :: items => Addressable item ∧ ItemsAddressable items

def FieldsAddressable : List (String × Value) → Prop
  | [] => True
  | (_, value) :: fields => Addressable value ∧ FieldsAddressable fields

end

theorem Addressable.of_mem_items {items : List Value} (h : ItemsAddressable items) :
    ∀ item ∈ items, Addressable item := by
  induction items with
  | nil => simp
  | cons item items ih => exact List.forall_mem_cons.mpr ⟨h.1, ih h.2⟩

theorem Addressable.of_mem_fields {fields : Fields} (h : FieldsAddressable fields) :
    ∀ entry ∈ fields, Addressable entry.2 := by
  induction fields with
  | nil => simp
  | cons entry fields ih => exact List.forall_mem_cons.mpr ⟨h.1, ih h.2⟩

/-- The index of a place that a list has leads there. -/
theorem child?_index {items : List Value} {n : Nat} (hlt : n < items.length)
    (h : (items.length : Int) ≤ Int64.maxValue.toInt) :
    (list items).child? (.index (Int64.ofNat n)) = items[n]? := by
  rw [child?, resolveIndex_ofNat hlt h, Option.bind_some]

end Value

namespace Drift

/-! ### What a mismatch says -/

/-- The keys that count of a map and are missing in another one, in ascending order. -/
structure OnlyIn (skip : SkipSet) (fields others : Fields) (keys : List String) : Prop where
  ascending : keys.Pairwise (· < ·)
  mem_iff : ∀ key, key ∈ keys ↔
    skip.contains key = false ∧ key ∈ Fields.keys fields ∧ key ∉ Fields.keys others

/-- What a difference says of an observed value and of what is desired in its place. -/
inductive Describes (skip : SkipSet) : Difference → Option Value → Value → Prop where
  | missingKey {observed : Value} : Describes skip .missingKey none observed
  | types {desired observed : Value} (h : desired.typeName ≠ observed.typeName) :
    Describes skip (.types desired.typeName observed.typeName) (some desired) observed
  | lengths {desired observed : List Value} (h : desired.length ≠ observed.length) :
    Describes skip (.lengths desired.length observed.length) (some (.list desired))
      (.list observed)
  | keySets {desired observed : Fields} {onlyDesired onlyObserved : List String}
      (hdesired : OnlyIn skip desired observed onlyDesired)
      (hobserved : OnlyIn skip observed desired onlyObserved)
      (h : onlyDesired ≠ [] ∨ onlyObserved ≠ []) :
    Describes skip (.keySets onlyDesired onlyObserved) (some (.map desired)) (.map observed)
  | values {desired observed : Value} (h : (desired == observed) = false) :
    Describes skip (.values desired observed) (some desired) observed

/-- All that is observed in front of a step agrees. Under keys it is the maps of the one entry that
do, as a list that is a document of its own is compared as a whole. -/
def FrontAgrees (skip : SkipSet) : Segment → Value → Value → Prop
  | .key name, .map desired, .map observed =>
    ∀ key o, Fields.get? observed key = some o → key < name → skip.contains key = false →
      ∃ d, Fields.get? desired key = some d ∧
        agree skip (.map [(key, d)]) (.map [(key, o)]) = true
  | .index i, .list desired, .list observed =>
    desired.length = observed.length ∧
      ∃ place, resolveIndex i observed.length = some place ∧
        ∀ n d o, n < place → desired[n]? = some d → observed[n]? = some o → agree skip d o = true
  | _, _, _ => False

/-- A mismatch of two documents is true, and nothing differs in front of it. -/
structure Accurate (skip : SkipSet) (desired observed : Value) (mismatch : Mismatch) : Prop where
  counts : ∀ name, Segment.key name ∈ mismatch.path → skip.contains name = false
  described : ∃ found, observed.lookup mismatch.path = some found ∧
    Describes skip mismatch.difference (desired.lookup mismatch.path) found
  parent : (desired.lookup mismatch.path.dropLast).isSome
  first : ∀ way step rest, mismatch.path = way ++ step :: rest →
    ∃ wanted found, desired.lookup way = some wanted ∧ observed.lookup way = some found ∧
      FrontAgrees skip step wanted found

variable {skip : SkipSet} {path : Path}

/-- Where the two values themselves differ. -/
theorem Accurate.here {desired observed : Value} {difference : Difference}
    (h : Describes skip difference (some desired) observed) :
    Accurate skip desired observed ⟨[], difference⟩ where
  counts := by simp
  described := ⟨observed, Value.lookup_nil observed, by rwa [Value.lookup_nil]⟩
  parent := by simp
  first := by simp

/-- What is true of the parts at one step is true behind that step. -/
theorem Accurate.cons {step : Segment} {desired observed d o : Value} {difference : Difference}
    (hcounts : ∀ name, step = .key name → skip.contains name = false)
    (hfront : FrontAgrees skip step desired observed)
    (hdesired : desired.child? step = some d) (hobserved : observed.child? step = some o)
    (h : Accurate skip d o ⟨path, difference⟩) :
    Accurate skip desired observed ⟨step :: path, difference⟩ where
  counts := counts_cons_iff.mpr ⟨hcounts, h.counts⟩
  described := by
    obtain ⟨found, hfound, hdescribes⟩ := h.described
    refine ⟨found, ?_, ?_⟩
    · rw [Value.lookup_cons, hobserved, Option.bind_some, hfound]
    · rw [Value.lookup_cons, hdesired, Option.bind_some]
      exact hdescribes
  parent := by
    cases path with
    | nil => simp
    | cons next path =>
      rw [List.dropLast_cons_cons, Value.lookup_cons, hdesired, Option.bind_some]
      exact h.parent
  first := by
    intro way next rest hpath
    cases way with
    | nil =>
      cases hpath
      exact ⟨desired, observed, Value.lookup_nil _, Value.lookup_nil _, hfront⟩
    | cons segment way =>
      obtain ⟨rfl, hrest⟩ := List.cons.inj hpath
      obtain ⟨wanted, found, hwanted, hfound, hagrees⟩ := h.first way next rest hrest
      refine ⟨wanted, found, ?_, ?_, hagrees⟩
      · rw [Value.lookup_cons, hdesired, Option.bind_some, hwanted]
      · rw [Value.lookup_cons, hobserved, Option.bind_some, hfound]

/-- An entry that is observed and not desired. -/
theorem Accurate.missing {desired observed : Fields} {name : String} {o : Value}
    (hcounts : skip.contains name = false)
    (hfront : FrontAgrees skip (.key name) (.map desired) (.map observed))
    (hdesired : Fields.get? desired name = none) (hobserved : Fields.get? observed name = some o) :
    Accurate skip (.map desired) (.map observed) ⟨[.key name], .missingKey⟩ where
  counts := by
    intro other hmem
    cases List.mem_singleton.mp hmem
    exact hcounts
  described := by
    refine ⟨o, ?_, ?_⟩
    · simp [Value.lookup_cons, Value.child?, hobserved]
    · rw [Value.lookup_cons, Value.child?, hdesired, Option.bind_none]
      exact .missingKey
  parent := by simp
  first := by
    intro way step rest hpath
    cases way with
    | nil =>
      cases hpath
      exact ⟨_, _, Value.lookup_nil _, Value.lookup_nil _, hfront⟩
    | cons segment way => simp at hpath

/-! ### Where a comparison stops -/

theorem entryMismatch?_none (observed : Value) :
    entryMismatch? skip path none observed = some ⟨path, .missingKey⟩ := by
  cases observed <;> rfl

theorem exists_of_fieldsMismatch? {desired : Fields} {observed : List (String × Value)}
    {mismatch : Mismatch} (h : fieldsMismatch? skip path desired observed = some mismatch) :
    ∃ front key o rest, observed = front ++ (key, o) :: rest ∧ skip.contains key = false ∧
      fieldsMismatch? skip path desired front = none ∧
      entryMismatch? skip (path ++ [.key key]) (Fields.get? desired key) o = some mismatch := by
  induction observed with
  | nil => contradiction
  | cons entry observed ih =>
    obtain ⟨key, o⟩ := entry
    rw [fieldsMismatch?_cons] at h
    split at h
    · next hskip =>
      obtain ⟨front, name, found, rest, rfl, hname, hfront, hentry⟩ := ih h
      refine ⟨(key, o) :: front, name, found, rest, rfl, hname, ?_, hentry⟩
      rw [fieldsMismatch?_cons, if_pos hskip, hfront]
    · next hskip =>
      rcases Option.or_eq_some_iff.mp h with hentry | ⟨hnone, hrest⟩
      · exact ⟨[], key, o, observed, rfl, by simpa using hskip, rfl, hentry⟩
      · obtain ⟨front, name, found, rest, rfl, hname, hfront, hentry⟩ := ih hrest
        refine ⟨(key, o) :: front, name, found, rest, rfl, hname, ?_, hentry⟩
        rw [fieldsMismatch?_cons, if_neg hskip, hnone, hfront, Option.or_none]

theorem exists_of_itemsMismatch? {place : Nat} {desired observed : List Value}
    {mismatch : Mismatch} (h : itemsMismatch? skip path place desired observed = some mismatch) :
    ∃ n d o, desired[n]? = some d ∧ observed[n]? = some o ∧
      (∀ m d o, m < n → desired[m]? = some d → observed[m]? = some o → agree skip d o = true) ∧
      itemMismatch? skip (path ++ [.index (Int64.ofNat (place + n))]) d o = some mismatch := by
  induction observed generalizing place desired with
  | nil => cases desired <;> contradiction
  | cons o observed ih => cases desired with
    | nil => contradiction
    | cons d desired =>
      rw [itemsMismatch?_cons] at h
      rcases Option.or_eq_some_iff.mp h with hitem | ⟨hnone, hrest⟩
      · exact ⟨0, d, o, rfl, rfl, by simp, hitem⟩
      · obtain ⟨n, d', o', hd, ho, hfront, hitem⟩ := ih hrest
        refine ⟨n + 1, d', o', hd, ho, ?_, ?_⟩
        · intro m x y hlt hx hy
          cases m with
          | zero =>
            cases hx
            cases hy
            exact agree_iff_covers.mpr ((itemMismatch?_eq_none_iff _ _ d o).mp hnone)
          | succ m => exact hfront m x y (Nat.lt_of_succ_lt_succ hlt) hx hy
        · rw [← Nat.add_assoc, Nat.add_right_comm]
          exact hitem

/-! ### Every mismatch is accurate -/

/-- A mismatch of two values at a place, whose path starts with that of the place. -/
def Reports (skip : SkipSet) (path : Path) (desired observed : Value) (mismatch : Mismatch) :
    Prop :=
  ∃ rest, mismatch.path = path ++ rest ∧
    Accurate skip desired observed ⟨rest, mismatch.difference⟩

theorem reports_here {desired observed : Value} {difference : Difference}
    (h : Describes skip difference (some desired) observed) :
    Reports skip path desired observed ⟨path, difference⟩ :=
  ⟨[], (List.append_nil path).symm, .here h⟩

theorem reports_of_valueMismatch? {desired observed : Value} {mismatch : Mismatch}
    (h : valueMismatch? path desired observed = some mismatch) :
    Reports skip path desired observed mismatch := by
  unfold valueMismatch? at h
  split at h
  · contradiction
  · next hdiffer =>
    cases h
    exact reports_here (.values (by simpa using hdiffer))

theorem reports_of_typesDiffer {desired observed : Value} {mismatch : Mismatch}
    (htypes : desired.typeName ≠ observed.typeName)
    (h : typesDiffer path desired observed = some mismatch) :
    Reports skip path desired observed mismatch := by
  cases h
  exact reports_here (.types htypes)

theorem reports_of_lengthMismatch? {desired observed : List Value} {mismatch : Mismatch}
    (h : lengthMismatch? path desired observed = some mismatch) :
    Reports skip path (.list desired) (.list observed) mismatch := by
  unfold lengthMismatch? at h
  split at h
  · contradiction
  · next hdiffer =>
    cases h
    exact reports_here (.lengths hdiffer)

/-- What a key set mismatch lists is what the keys that count differ in. -/
theorem reports_of_keyMismatch? {desired observed : Fields} {mismatch : Mismatch}
    (hdesired : Fields.Ascending desired) (hobserved : Fields.Ascending observed)
    (h : keyMismatch? skip path desired observed = some mismatch) :
    Reports skip path (.map desired) (.map observed) mismatch := by
  have honly {fields others : Fields} (hasc : Fields.Ascending fields) :
      OnlyIn skip fields others ((skip.retain (Fields.keys fields)).filter fun key ↦
        !(skip.retain (Fields.keys others)).contains key) := by
    refine ⟨(hasc.filter _).filter _, ?_⟩
    intro key
    simp only [SkipSet.retain, List.mem_filter, List.contains_eq_mem, Bool.not_eq_true',
      decide_eq_false_iff_not]
    tauto
  rw [keyMismatch?] at h
  split at h
  · contradiction
  · next hdiffer =>
    cases h
    apply reports_here
    refine .keySets (honly hdesired) (honly hobserved) ?_
    by_contra hnone
    rw [not_or, not_not, not_not, List.filter_eq_nil_iff, List.filter_eq_nil_iff] at hnone
    have hwanted : (skip.retain (Fields.keys desired)).Pairwise (· < ·) := hdesired.filter _
    have hfound : (skip.retain (Fields.keys observed)).Pairwise (· < ·) := hobserved.filter _
    apply hdiffer
    apply hwanted.eq_of_mem_iff hfound
    intro key
    exact ⟨fun hmem ↦ by simpa using hnone.1 key hmem, fun hmem ↦ by simpa using hnone.2 key hmem⟩

/-- Of an entry of the observed map, everything in front of it agrees. -/
theorem frontAgrees_key {desired front rest : Fields} {name : String} {o : Value}
    (hasc : Fields.Ascending (front ++ (name, o) :: rest))
    (hfront : fieldsMismatch? skip path desired front = none) :
    FrontAgrees skip (.key name) (.map desired) (.map (front ++ (name, o) :: rest)) := by
  intro key found hfound hlt hskip
  have hmem : (key, found) ∈ front := by
    rcases List.mem_append.mp (Fields.mem_of_get? hfound) with hmem | hmem
    · exact hmem
    · have hbehind : Fields.Ascending ((name, o) :: rest) := by
        rw [Fields.Ascending, Fields.keys, List.map_append] at hasc
        exact (List.pairwise_append.mp hasc).2.1
      rcases List.mem_cons.mp hmem with hsame | hrest
      · cases hsame
        exact absurd hlt (String.lt_irrefl _)
      · have hgt : name < key := hbehind.head_lt (List.mem_map_of_mem hrest)
        exact absurd hlt (String.lt_asymm hgt)
  obtain ⟨hsome, hcovers⟩ :=
    (fieldsMismatch?_eq_none_iff skip path desired front).mp hfront _ hmem hskip
  obtain ⟨d, hd⟩ := Option.isSome_iff_exists.mp hsome
  refine ⟨d, hd, ?_⟩
  apply agree_iff_covers.mpr
  apply Covers.of_entries
  · intro hposition
    contradiction
  · intro entry hentry _
    cases List.mem_singleton.mp hentry
    exact ⟨d, if_pos rfl, hcovers d hd⟩

theorem reports_of_fieldsMismatch? {desired observed : Fields} {mismatch : Mismatch}
    (hobserved : Fields.Ascending observed)
    (hentries : ∀ path name d o, Fields.get? desired name = some d →
      Fields.get? observed name = some o →
        entryMismatch? skip path (some d) o = some mismatch → Reports skip path d o mismatch)
    (h : fieldsMismatch? skip path desired observed = some mismatch) :
    Reports skip path (.map desired) (.map observed) mismatch := by
  obtain ⟨front, name, o, rest, rfl, hname, hfront, hentry⟩ := exists_of_fieldsMismatch? h
  have hagrees := frontAgrees_key hobserved hfront
  have hget : Fields.get? (front ++ (name, o) :: rest) name = some o :=
    Fields.get?_of_mem hobserved (by simp)
  cases hd : Fields.get? desired name with
  | none =>
    rw [hd, entryMismatch?_none] at hentry
    cases hentry
    exact ⟨[.key name], rfl, .missing hname hagrees hd hget⟩
  | some d =>
    rw [hd] at hentry
    obtain ⟨below, hpath, haccurate⟩ := hentries _ name d o hd hget hentry
    refine ⟨.key name :: below, by rw [hpath, List.append_assoc]; rfl, ?_⟩
    apply haccurate.cons _ hagrees hd hget
    intro other hother
    cases hother
    exact hname

theorem reports_of_itemsMismatch? {desired observed : List Value} {mismatch : Mismatch}
    (hlength : desired.length = observed.length)
    (hindices : (observed.length : Int) ≤ Int64.maxValue.toInt)
    (hitems : ∀ (path : Path) (n : Nat) d o, desired[n]? = some d → observed[n]? = some o →
      itemMismatch? skip path d o = some mismatch → Reports skip path d o mismatch)
    (h : itemsMismatch? skip path 0 desired observed = some mismatch) :
    Reports skip path (.list desired) (.list observed) mismatch := by
  obtain ⟨n, d, o, hd, ho, hfront, hitem⟩ := exists_of_itemsMismatch? h
  rw [Nat.zero_add] at hitem
  obtain ⟨below, hpath, haccurate⟩ := hitems _ n d o hd ho hitem
  have hlt : n < observed.length := (List.getElem?_eq_some_iff.mp ho).1
  have hagrees : FrontAgrees skip (.index (Int64.ofNat n)) (.list desired) (.list observed) :=
    ⟨hlength, n, resolveIndex_ofNat hlt hindices, hfront⟩
  refine ⟨.index (Int64.ofNat n) :: below, by rw [hpath, List.append_assoc]; rfl, ?_⟩
  apply haccurate.cons _ hagrees
  · rw [Value.child?_index (hlength ▸ hlt) (hlength ▸ hindices), hd]
  · rw [Value.child?_index hlt hindices, ho]
  · intro name hname
    contradiction

/-- Whichever way two values are compared, the mismatch that is found is accurate. -/
theorem reports_of_parts (skip : SkipSet) (observed : Value) :
    ∀ {path : Path} {desired : Value} {mismatch : Mismatch}, desired.WellFormed →
      observed.WellFormed → observed.Addressable →
        (entryMismatch? skip path (some desired) observed = some mismatch →
            Reports skip path desired observed mismatch) ∧
          (itemMismatch? skip path desired observed = some mismatch →
            Reports skip path desired observed mismatch) := by
  induction observed using Value.induction_on_parts with
  | plain observed hplain =>
    intro path desired mismatch hdesired hobserved haddressable
    have hwhole : Position.Whole .item desired observed := by
      right
      cases observed <;> first | rfl | contradiction
    rw [entryMismatch?_whole hplain, itemMismatch?_whole hwhole]
    exact ⟨reports_of_valueMismatch?, reports_of_valueMismatch?⟩
  | list observed ih =>
    intro path desired mismatch hdesired hobserved haddressable
    rw [itemMismatch?_whole (.inr rfl)]
    refine ⟨?_, reports_of_valueMismatch?⟩
    intro h
    cases desired with
    | list desired =>
      rw [entryMismatch?_list] at h
      rcases Option.or_eq_some_iff.mp h with hlengths | ⟨hsame, hitems⟩
      · exact reports_of_lengthMismatch? hlengths
      · apply reports_of_itemsMismatch? (lengthMismatch?_eq_none_iff.mp hsame)
          haddressable.1 _ hitems
        intro path n d o hd ho
        exact (ih o (List.mem_of_getElem? ho) (Value.WellFormed.getElem? hdesired hd)
          (Value.WellFormed.getElem? hobserved ho)
          (Value.Addressable.of_mem_items haddressable.2 o (List.mem_of_getElem? ho))).2
    | _ => exact reports_of_typesDiffer (by simp [Value.typeName]) h
  | map observed ih =>
    intro path desired mismatch hdesired hobserved haddressable
    have hfields {path : Path} {fields : Fields} (hfields : (Value.map fields).WellFormed) :
        fieldsMismatch? skip path fields observed = some mismatch →
          Reports skip path (.map fields) (.map observed) mismatch := by
      apply reports_of_fieldsMismatch? hobserved.1
      intro path name d o hd ho
      have hmem : (name, o) ∈ observed := Fields.mem_of_get? ho
      exact (ih _ hmem (Value.WellFormed.get? hfields.2 hd) (Value.WellFormed.get? hobserved.2 ho)
        (Value.Addressable.of_mem_fields haddressable _ hmem)).1
    cases desired with
    | map desired =>
      rw [entryMismatch?_map]
      refine ⟨fun h ↦ ?_, hfields hdesired⟩
      rcases Option.or_eq_some_iff.mp h with hkeys | ⟨-, hrest⟩
      · exact reports_of_keyMismatch? hdesired.1 hobserved.1 hkeys
      · exact hfields hdesired hrest
    | _ =>
      rw [itemMismatch?_whole (.inl rfl)]
      exact ⟨reports_of_typesDiffer (by simp [Value.typeName]), reports_of_valueMismatch?⟩

/-- What is reported of two documents is true of the values at its path, and it is the first thing
in which they do not agree. -/
theorem mismatch_accurate {desired observed : Value} {mismatch : Mismatch}
    (hdesired : desired.WellFormed) (hobserved : observed.WellFormed)
    (haddressable : observed.Addressable) (h : mismatch? skip desired observed = some mismatch) :
    Accurate skip desired observed mismatch := by
  have hreports : Reports skip [] desired observed mismatch := by
    cases observed with
    | map observed => cases desired with
      | map desired => exact (reports_of_parts skip _ hdesired hobserved haddressable).2 h
      | _ => exact reports_of_typesDiffer (by simp [Value.typeName]) h
    | _ => exact reports_of_valueMismatch? (by cases desired <;> exact h)
  obtain ⟨rest, hpath, haccurate⟩ := hreports
  cases hpath
  exact haccurate

/-- A port in the second item of a list, where the desired service has another one. -/
theorem mismatch_accurate_of_port :
    let skip : SkipSet := ⟨["status"]⟩
    let service (port : Int64) : Value :=
      .map [("ports", .list [.map [("port", .int 80)], .map [("port", .int port)]]),
        ("status", .int port)]
    let mismatch : Mismatch :=
      ⟨[.key "ports", .index 1, .key "port"], .values (.int 8443) (.int 443)⟩
    (service 8443).WellFormed ∧ (service 443).WellFormed ∧ (service 443).Addressable ∧
      mismatch? skip (service 8443) (service 443) = some mismatch ∧
      Accurate skip (service 8443) (service 443) mismatch := by
  intro skip service mismatch
  have hformed (port : Int64) : (service port).WellFormed := by
    have hkeys : ["ports", "status"].Pairwise (· < ·) := by decide
    have hkey : ["port"].Pairwise (· < ·) := List.pairwise_singleton _ _
    exact ⟨hkeys, ⟨⟨hkey, trivial, trivial⟩, ⟨hkey, trivial, trivial⟩, trivial⟩, trivial, trivial⟩
  have haddressable : (service 443).Addressable := by
    refine ⟨⟨?_, ⟨trivial, trivial⟩, ⟨trivial, trivial⟩, trivial⟩, trivial, trivial⟩
    decide
  have hfound : mismatch? skip (service 8443) (service 443) = some mismatch := rfl
  exact ⟨hformed 8443, hformed 443, haddressable, hfound,
    mismatch_accurate (hformed 8443) (hformed 443) haddressable hfound⟩

end Drift

end ClusterRouter
