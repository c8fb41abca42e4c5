import ClusterRouter.Value.Basic
import Mathlib.Data.List.Basic
import Mathlib.Tactic.Common

/-!
# Entries of maps

`Fields.get?` reads what `Fields.insert` wrote and nothing else, whatever the order of the entries
is, and two entries may be written in either order. Where the keys ascend, they stay in order.
-/

namespace ClusterRouter.Fields

theorem get?_insert_self (fields : Fields) (key : String) (value : Value) :
    get? (insert fields key value) key = some value := by
  fun_induction insert fields key value with
  | case1 => simp [get?]
  | case2 => simp [get?]
  | case3 => simp [get?]
  | case4 k v rest key value hk _ ih => rw [get?, if_neg hk, ih]

theorem get?_insert_of_ne {key other : String} (h : other ≠ key) (fields : Fields)
    (value : Value) : get? (insert fields key value) other = get? fields other := by
  fun_induction insert fields key value with
  | case1 => simp [get?, Ne.symm h]
  | case2 k v rest => rw [get?, get?, if_neg (Ne.symm h), if_neg (Ne.symm h)]
  | case3 => rw [get?, if_neg (Ne.symm h)]
  | case4 k v rest key value _ _ ih => rw [get?, get?, ih h]

theorem get?_insert (fields : Fields) (key other : String) (value : Value) :
    get? (insert fields key value) other = if other = key then some value else get? fields other := by
  by_cases h : other = key
  · rw [if_pos h, h, get?_insert_self]
  · rw [if_neg h, get?_insert_of_ne h]

/-- Of two entries written under one key the second stays. -/
theorem insert_insert (fields : Fields) (key : String) (first second : Value) :
    insert (insert fields key first) key second = insert fields key second := by
  fun_induction insert fields key first with
  | case1 => simp [insert]
  | case2 => simp [insert]
  | case3 k v rest key first hk hlt => simp only [insert, if_neg hk, if_pos hlt, if_true]
  | case4 k v rest key first hk hlt ih => simp only [insert, if_neg hk, if_neg hlt, ih]

theorem insert_cons_self (key : String) (old : Value) (rest : Fields) (value : Value) :
    insert ((key, old) :: rest) key value = (key, value) :: rest := by
  rw [insert, if_pos rfl]

theorem insert_cons_of_lt {key first : String} (h : key < first) (old : Value) (rest : Fields)
    (value : Value) :
    insert ((first, old) :: rest) key value = (key, value) :: (first, old) :: rest := by
  rw [insert, if_neg (String.ne_of_lt h).symm, if_pos h]

theorem insert_cons_of_gt {key first : String} (h : first < key) (old : Value) (rest : Fields)
    (value : Value) :
    insert ((first, old) :: rest) key value = (first, old) :: insert rest key value := by
  rw [insert, if_neg (String.ne_of_lt h), if_neg (String.lt_asymm h)]

theorem insert_comm_of_lt {key other : String} (hlt : key < other) (fields : Fields)
    (value new : Value) :
    insert (insert fields key value) other new = insert (insert fields other new) key value := by
  induction fields with
  | nil =>
    exact (insert_cons_of_gt hlt value [] new).trans (insert_cons_of_lt hlt new [] value).symm
  | cons entry rest ih =>
    obtain ⟨k, v⟩ := entry
    rcases Std.lt_trichotomy key k with hbefore | rfl | hbehind
    · rw [insert_cons_of_lt hbefore, insert_cons_of_gt hlt]
      rcases Std.lt_trichotomy other k with hfirst | rfl | hlast
      · rw [insert_cons_of_lt hfirst, insert_cons_of_lt hlt]
      · rw [insert_cons_self, insert_cons_of_lt hlt]
      · rw [insert_cons_of_gt hlast, insert_cons_of_lt hbefore]
    · rw [insert_cons_self, insert_cons_of_gt hlt, insert_cons_of_gt hlt, insert_cons_self]
    · have hlast : k < other := String.lt_trans hbehind hlt
      rw [insert_cons_of_gt hbehind, insert_cons_of_gt hlast, insert_cons_of_gt hlast,
        insert_cons_of_gt hbehind, ih]

/-- Entries under two keys may be written in either order. -/
theorem insert_comm {key other : String} (h : key ≠ other) (fields : Fields) (value new : Value) :
    insert (insert fields key value) other new = insert (insert fields other new) key value := by
  by_cases hlt : key < other
  · exact insert_comm_of_lt hlt fields value new
  · have hgt : other < key :=
      String.not_le.mp fun hle ↦ h (String.le_antisymm hle (String.not_lt.mp hlt))
    exact (insert_comm_of_lt hgt fields new value).symm

theorem get?_eq_none_iff {fields : Fields} {key : String} :
    get? fields key = none ↔ key ∉ keys fields := by
  induction fields with
  | nil => simp [get?, keys]
  | cons entry rest ih =>
    obtain ⟨k, v⟩ := entry
    by_cases h : k = key
    · simp [get?, keys, h]
    · simpa [get?, keys, h, Ne.symm h] using ih

theorem length_erase {fields : Fields} {key : String} (h : contains fields key = true) :
    (erase fields key).length + 1 = fields.length := by
  induction fields with
  | nil => simp [contains, get?] at h
  | cons entry rest ih =>
    obtain ⟨k, v⟩ := entry
    by_cases hk : k = key
    · simp [erase, hk]
    · simp only [contains, get?, if_neg hk] at h
      simp only [erase, if_neg hk, List.length_cons, ih h]

/-- The keys of a map stand in ascending order. -/
def Ascending (fields : Fields) : Prop := (keys fields).Pairwise (· < ·)

instance (fields : Fields) : Decidable (Ascending fields) :=
  inferInstanceAs (Decidable ((keys fields).Pairwise (· < ·)))

theorem Ascending.tail {entry : String × Value} {rest : Fields} (h : Ascending (entry :: rest)) :
    Ascending rest := (List.pairwise_cons.mp h).2

theorem Ascending.head_lt {key : String} {value : Value} {rest : Fields}
    (h : Ascending ((key, value) :: rest)) {other : String} (hmem : other ∈ keys rest) :
    key < other := (List.pairwise_cons.mp h).1 other hmem

theorem mem_of_get? {fields : Fields} {key : String} {value : Value}
    (h : get? fields key = some value) : (key, value) ∈ fields := by
  induction fields with
  | nil => contradiction
  | cons entry rest ih =>
    obtain ⟨k, v⟩ := entry
    unfold get? at h
    split at h
    · next hk =>
      cases h
      exact hk ▸ List.mem_cons_self
    · exact List.mem_cons_of_mem _ (ih h)

theorem mem_keys_of_get? {fields : Fields} {key : String} {value : Value}
    (h : get? fields key = some value) : key ∈ keys fields :=
  List.mem_map_of_mem (mem_of_get? h)

theorem get?_of_mem {fields : Fields} (hasc : Ascending fields) {key : String} {value : Value}
    (h : (key, value) ∈ fields) : get? fields key = some value := by
  induction fields with
  | nil => contradiction
  | cons entry rest ih =>
    rcases List.mem_cons.mp h with rfl | hmem
    · rw [get?, if_pos rfl]
    · have hlt : entry.1 < key := hasc.head_lt (List.mem_map_of_mem hmem)
      rw [get?, if_neg (String.ne_of_lt hlt), ih hasc.tail hmem]

/-- Overwriting an entry of a map in order keeps the keys as they are. -/
theorem keys_insert_of_get? {fields : Fields} (hasc : Ascending fields) {key : String}
    {old : Value} (h : get? fields key = some old) (value : Value) :
    keys (insert fields key value) = keys fields := by
  induction fields with
  | nil => contradiction
  | cons entry rest ih =>
    obtain ⟨k, v⟩ := entry
    unfold get? at h
    by_cases hk : k = key
    · simp [insert, keys, hk]
    · rw [if_neg hk] at h
      have hlt : k < key := hasc.head_lt (mem_keys_of_get? h)
      rw [insert_cons_of_gt hlt]
      exact congrArg (k :: ·) (ih hasc.tail h)

/-- Overwriting an entry of a map in order with what it is changes nothing. -/
theorem insert_of_get? {fields : Fields} (hasc : Ascending fields) {key : String} {value : Value}
    (h : get? fields key = some value) : insert fields key value = fields := by
  induction fields with
  | nil => contradiction
  | cons entry rest ih =>
    obtain ⟨k, v⟩ := entry
    unfold get? at h
    by_cases hk : k = key
    · rw [if_pos hk] at h
      cases h
      rw [hk, insert_cons_self]
    · rw [if_neg hk] at h
      have hlt : k < key := hasc.head_lt (mem_keys_of_get? h)
      rw [insert_cons_of_gt hlt, ih hasc.tail h]

theorem get?_erase_of_ne {key other : String} (h : other ≠ key) (fields : Fields) :
    get? (erase fields key) other = get? fields other := by
  induction fields with
  | nil => rfl
  | cons entry rest ih =>
    obtain ⟨k, v⟩ := entry
    by_cases hk : k = key
    · rw [erase, if_pos hk, get?, if_neg (hk.trans_ne h.symm)]
    · rw [erase, if_neg hk, get?, get?, ih]

theorem mem_keys_insert {fields : Fields} {key other : String} {value : Value}
    (h : other ∈ keys (insert fields key value)) : other = key ∨ other ∈ keys fields := by
  by_contra hnot
  rw [not_or] at hnot
  refine get?_eq_none_iff.mp ?_ h
  rw [get?_insert_of_ne hnot.1, get?_eq_none_iff]
  exact hnot.2

theorem ascending_insert {fields : Fields} (h : Ascending fields) (key : String) (value : Value) :
    Ascending (insert fields key value) := by
  fun_induction insert fields key value with
  | case1 => simp [Ascending, keys]
  | case2 => exact h
  | case3 k v rest key value hk hlt =>
    refine List.pairwise_cons.mpr ⟨fun other hmem ↦ ?_, h⟩
    rcases List.mem_cons.mp hmem with rfl | hmem
    · exact hlt
    · exact String.lt_trans hlt (h.head_lt hmem)
  | case4 k v rest key value hk hlt ih =>
    refine List.pairwise_cons.mpr ⟨fun other hmem ↦ ?_, ih h.tail⟩
    rcases mem_keys_insert hmem with rfl | hmem
    · exact String.not_le.mp fun hle ↦ hk (String.le_antisymm (String.not_lt.mp hlt) hle)
    · exact h.head_lt hmem

theorem get?_erase_self {fields : Fields} (hasc : Ascending fields) (key : String) :
    get? (erase fields key) key = none := by
  induction fields with
  | nil => rfl
  | cons entry rest ih =>
    obtain ⟨k, v⟩ := entry
    by_cases hk : k = key
    · subst hk
      rw [erase, if_pos rfl, get?_eq_none_iff]
      exact fun hmem ↦ String.lt_irrefl k (hasc.head_lt hmem)
    · rw [erase, if_neg hk, get?, if_neg hk, ih hasc.tail]

theorem erase_sublist (fields : Fields) (key : String) : (erase fields key).Sublist fields := by
  induction fields with
  | nil => exact List.nil_sublist _
  | cons entry rest ih =>
    obtain ⟨k, v⟩ := entry
    rw [erase]
    split
    · exact List.sublist_cons_self _ _
    · exact ih.cons_cons _

theorem ascending_erase {fields : Fields} (h : Ascending fields) (key : String) :
    Ascending (erase fields key) :=
  List.Pairwise.sublist ((erase_sublist fields key).map Prod.fst) h

/-! ### Entries that come and go -/

/-- An entry under a new key is gone when it is erased again. -/
theorem erase_insert {fields : Fields} {key : String} (h : get? fields key = none) (value : Value) :
    erase (insert fields key value) key = fields := by
  fun_induction insert fields key value with
  | case1 => simp [erase]
  | case2 => simp [get?] at h
  | case3 => simp [erase]
  | case4 k v rest key value hk _ ih =>
    rw [get?, if_neg hk] at h
    rw [erase, if_neg hk, ih h]

theorem insert_of_lt_keys {fields : Fields} {key : String} (h : ∀ k ∈ keys fields, key < k)
    (value : Value) : insert fields key value = (key, value) :: fields := by
  cases fields with
  | nil => rfl
  | cons entry rest => exact insert_cons_of_lt (h entry.1 List.mem_cons_self) entry.2 rest value

/-- An entry that was erased is back in its place when it is written again. -/
theorem insert_erase {fields : Fields} (hasc : Ascending fields) {key : String} {value : Value}
    (h : get? fields key = some value) : insert (erase fields key) key value = fields := by
  induction fields with
  | nil => contradiction
  | cons entry rest ih =>
    obtain ⟨k, v⟩ := entry
    unfold get? at h
    by_cases hk : k = key
    · rw [if_pos hk] at h
      cases h
      subst hk
      rw [erase, if_pos rfl, insert_of_lt_keys fun other ↦ hasc.head_lt]
    · rw [if_neg hk] at h
      have hlt : k < key := hasc.head_lt (mem_keys_of_get? h)
      rw [erase, if_neg hk, insert_cons_of_gt hlt, ih hasc.tail h]

/-! ### Entries in order -/

theorem insert_of_keys_lt {fields : Fields} {key : String} (h : ∀ k ∈ keys fields, k < key)
    (value : Value) : insert fields key value = fields ++ [(key, value)] := by
  induction fields with
  | nil => rfl
  | cons entry rest ih =>
    obtain ⟨hfirst, hrest⟩ := List.forall_mem_cons.mp h
    rw [insert_cons_of_gt hfirst, ih hrest, List.cons_append]

theorem merge_of_ascending {fields entries : Fields} (h : Ascending (fields ++ entries)) :
    merge fields entries = fields ++ entries := by
  induction entries generalizing fields with
  | nil => exact (List.append_nil fields).symm
  | cons entry entries ih =>
    obtain ⟨key, value⟩ := entry
    have hbefore : ∀ k ∈ keys fields, k < key := by
      unfold Ascending at h
      rw [keys, List.map_append, List.pairwise_append] at h
      exact fun k hk ↦ h.2.2 k hk key List.mem_cons_self
    have hinsert := insert_of_keys_lt hbefore value
    rw [List.append_cons] at h ⊢
    rw [← hinsert] at h ⊢
    exact ih h

/-- Entries in order make the map that they are. -/
theorem ofList_of_ascending {entries : Fields} (h : Ascending entries) : ofList entries = entries :=
  merge_of_ascending h

/-! ### Merged entries -/

theorem ascending_merge {fields : Fields} (h : Ascending fields) (incoming : Fields) :
    Ascending (merge fields incoming) := by
  unfold merge
  induction incoming generalizing fields with
  | nil => exact h
  | cons entry rest ih => exact ih (ascending_insert h entry.1 entry.2)

theorem get?_merge_of_not_mem {incoming : Fields} {key : String} (h : key ∉ keys incoming)
    (fields : Fields) : get? (merge fields incoming) key = get? fields key := by
  unfold merge
  induction incoming generalizing fields with
  | nil => rfl
  | cons entry rest ih =>
    obtain ⟨hne, hrest⟩ : key ≠ entry.1 ∧ key ∉ keys rest := not_or.mp (mt List.mem_cons.mpr h)
    rw [List.foldl_cons, ih hrest, get?_insert_of_ne hne]

/-- Every entry of the incoming map is found in the merged one. -/
theorem get?_merge_of_mem {incoming : Fields} (hasc : Ascending incoming) {key : String}
    {value : Value} (h : (key, value) ∈ incoming) (fields : Fields) :
    get? (merge fields incoming) key = some value := by
  induction incoming generalizing fields with
  | nil => contradiction
  | cons entry rest ih =>
    rcases List.mem_cons.mp h with rfl | hmem
    · have hlater : key ∉ keys rest := fun hkey ↦ String.lt_irrefl key (hasc.head_lt hkey)
      exact (get?_merge_of_not_mem hlater _).trans (get?_insert_self fields key value)
    · exact ih hasc.tail hmem (insert fields entry.1 entry.2)

theorem merge_of_get? {fields incoming : Fields} (hasc : Ascending fields)
    (h : ∀ entry ∈ incoming, get? fields entry.1 = some entry.2) : merge fields incoming = fields := by
  unfold merge
  induction incoming with
  | nil => rfl
  | cons entry rest ih =>
    obtain ⟨hentry, hrest⟩ := List.forall_mem_cons.mp h
    rw [List.foldl_cons, insert_of_get? hasc hentry, ih hrest]

/-- A second merge of the same entries changes nothing. -/
theorem merge_merge {fields incoming : Fields} (hasc : Ascending fields)
    (hincoming : Ascending incoming) :
    merge (merge fields incoming) incoming = merge fields incoming :=
  merge_of_get? (ascending_merge hasc incoming) fun _ hmem ↦ get?_merge_of_mem hincoming hmem fields

end ClusterRouter.Fields
