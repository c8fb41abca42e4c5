import ClusterRouter.Proofs.Drift.Comparison

/-!
# Larger skip-sets

A skip-set does nothing but take keys out of a comparison: out of the entries that are looked at,
and on both sides out of the rows of keys that must be the same. So documents that agree under a
skip-set agree under every larger one, at whatever level the further keys stand.
-/

namespace ClusterRouter

namespace SkipSet

/-- One skip-set is part of another one when every key that it holds is held there. -/
instance : HasSubset SkipSet :=
  ⟨fun skip larger ↦ ∀ key, skip.contains key = true → larger.contains key = true⟩

variable {skip larger : SkipSet} {key other : String}

theorem mem_insertKey_iff {keys : List String} :
    other ∈ insertKey key keys ↔ other = key ∨ other ∈ keys := by
  fun_induction insertKey key keys with
  | case1 => simp
  | case2 => simp
  | case3 => simp
  | case4 k rest _ _ ih => rw [List.mem_cons, ih, List.mem_cons, or_left_comm]

theorem contains_insert_iff :
    (skip.insert key).contains other = true ↔ other = key ∨ skip.contains other = true := by
  rw [contains, contains, List.contains_iff_mem, List.contains_iff_mem]
  exact mem_insertKey_iff

theorem subset_extend (skip : SkipSet) (keys : List String) : skip ⊆ skip.extend keys := by
  unfold extend
  induction keys generalizing skip with
  | nil => exact fun _ h ↦ h
  | cons key keys ih =>
    exact fun other h ↦ ih (skip.insert key) other (contains_insert_iff.mpr (.inr h))

theorem counts_of_subset (h : skip ⊆ larger) (hcounts : larger.contains key = false) :
    skip.contains key = false := by
  rw [← Bool.not_eq_true] at hcounts ⊢
  exact fun hskip ↦ hcounts (h key hskip)

/-- The keys that count under the larger set count under the smaller one. -/
theorem retain_retain (h : skip ⊆ larger) (keys : List String) :
    larger.retain (skip.retain keys) = larger.retain keys := by
  unfold retain
  rw [List.filter_filter]
  apply List.filter_congr
  intro key _
  cases hcounts : larger.contains key with
  | true => rfl
  | false => rw [counts_of_subset h hcounts]; rfl

end SkipSet

namespace Drift

variable {skip larger : SkipSet}

/-- What is covered under a skip-set is covered under a larger one. Fewer entries are looked at, and
the keys that count on both sides are those of the same two rows. -/
theorem Covers.enlarge {position : Position} {desired observed : Value} (hlarger : skip ⊆ larger)
    (h : Covers skip position desired observed) : Covers larger position desired observed := by
  induction h with
  | whole hwhole hequal => exact .whole hwhole hequal
  | list hlength hitems ih => exact .list hlength ih
  | @map position desired observed hkeys hpresent hentries ih =>
    apply Covers.map
    · intro hentry
      rw [← SkipSet.retain_retain hlarger (Fields.keys desired), hkeys hentry,
        SkipSet.retain_retain hlarger]
    · intro entry hmem hcounts
      exact hpresent entry hmem (SkipSet.counts_of_subset hlarger hcounts)
    · intro entry hmem hcounts
      exact ih entry hmem (SkipSet.counts_of_subset hlarger hcounts)

/-- Where no mismatch is found under a skip-set, none is found under a larger one. -/
theorem no_mismatch_of_subset (hlarger : skip ⊆ larger) {desired observed : Value}
    (h : mismatch? skip desired observed = none) : mismatch? larger desired observed = none := by
  rw [← Option.isNone_iff_eq_none] at h ⊢
  have hcovers : Covers skip .item desired observed := agree_iff_covers.mp h
  exact agree_iff_covers.mpr (hcovers.enlarge hlarger)

/-- A key below a list that only the observed map has is skipped, and then one that both have. -/
theorem no_mismatch_of_further_key :
    let skip : SkipSet := .ofList ["nodePort"]
    let service (port : Fields) : Value :=
      .map [("spec", .map [("ports", .list [.map [("http", .map port)]])])]
    let desired := service [("port", .int 80)]
    let observed := service [("nodePort", .int 30080), ("port", .int 80)]
    skip ⊆ skip.extend ["port", "status"] ∧
      (mismatch? {} desired observed).isSome ∧
      mismatch? skip desired observed = none ∧
      mismatch? (skip.extend ["port", "status"]) desired observed = none := by
  intro skip service desired observed
  have hlarger : skip ⊆ skip.extend ["port", "status"] := skip.subset_extend _
  have hagree : agree skip desired observed = true := by decide +kernel
  have hnone : mismatch? skip desired observed = none := Option.isNone_iff_eq_none.mp hagree
  have hdiffer : agree {} desired observed = false := by decide +kernel
  refine ⟨hlarger, ?_, hnone, no_mismatch_of_subset hlarger hnone⟩
  rw [← Option.not_isNone, show (mismatch? {} desired observed).isNone = false from hdiffer]
  rfl

end Drift

end ClusterRouter
