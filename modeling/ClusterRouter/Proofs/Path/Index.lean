import ClusterRouter.Path.Basic
import Mathlib.Tactic.Common

/-!
# Places in lists

An index means a place that the list has, counted from its front or, where it is negative, from
its end. The 64-bit sum never leaves its range.
-/

namespace ClusterRouter

theorem toInt_ofNat_of_le_maxValue {n : Nat} (h : (n : Int) ≤ Int64.maxValue.toInt) :
    (Int64.ofNat n).toInt = n := by
  apply Int64.toInt_ofNat_of_lt
  have hmax : Int64.maxValue.toInt = 2 ^ 63 - 1 := rfl
  omega

/-- The place that an index counts to, as integers count. -/
theorem resolveIndex_eq_some_iff {index : Int64} {length place : Nat} :
    resolveIndex index length = some place ↔
      (length : Int) ≤ Int64.maxValue.toInt ∧ place < length ∧
        (place : Int) = if index.toInt < 0 then length + index.toInt else index.toInt := by
  have hmax : Int64.maxValue.toInt = 2 ^ 63 - 1 := rfl
  have hleast := index.le_toInt
  unfold resolveIndex
  by_cases hlength : (length : Int) ≤ Int64.maxValue.toInt
  · have hcast := toInt_ofNat_of_le_maxValue hlength
    have hsum (hneg : index.toInt < 0) :
        (Int64.ofNat length + index).toInt = length + index.toInt := by
      rw [Int64.toInt_add, hcast]
      apply Int.bmod_eq_of_le <;> omega
    have hzero : (0 : Int64).toInt = 0 := rfl
    simp only [if_pos hlength, Int64.lt_iff_toInt_lt, Int64.le_iff_toInt_le, hzero, hcast]
    by_cases hneg : index.toInt < 0
    · simp only [if_pos hneg, hsum hneg]
      split <;> simp only [Option.some.injEq, reduceCtorEq, false_iff] <;> omega
    · simp only [if_neg hneg]
      split <;> simp only [Option.some.injEq, reduceCtorEq, false_iff] <;> omega
  · simp [hlength]

theorem resolveIndex_lt {index : Int64} {length place : Nat}
    (h : resolveIndex index length = some place) : place < length :=
  (resolveIndex_eq_some_iff.mp h).2.1

/-- The index of a place that a list has means that place. -/
theorem resolveIndex_ofNat {n length : Nat} (hlt : n < length)
    (hlength : (length : Int) ≤ Int64.maxValue.toInt) :
    resolveIndex (Int64.ofNat n) length = some n := by
  have hindex : (Int64.ofNat n).toInt = n := toInt_ofNat_of_le_maxValue (by omega)
  rw [resolveIndex_eq_some_iff, hindex, if_neg (by omega)]
  exact ⟨hlength, hlt, rfl⟩

/-- The index -1 means the last place. -/
theorem resolveIndex_last {length : Nat} (hlength : (length + 1 : Int) ≤ Int64.maxValue.toInt) :
    resolveIndex (-1) (length + 1) = some length := by
  have hindex : (-1 : Int64).toInt = -1 := rfl
  rw [resolveIndex_eq_some_iff, hindex, if_pos (by omega)]
  omega

end ClusterRouter
