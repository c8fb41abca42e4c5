import ClusterRouter.Binary64.Basic
import Mathlib.Algebra.Order.Ring.Int
import Mathlib.Tactic.Common
import Mathlib.Tactic.Ring

/-!
# Exact values of binary floating point numbers

A finite number is a whole multiple of the least positive one, `2 ^ -1074`, so exact values are
compared as integers. A pattern is determined by its exact value, zero apart, which has two. Hence
numbers are equal exactly when they have one exact value, and a number and an integer are as well.
-/

namespace ClusterRouter.Binary64

/-- An exact value; a finite one in units of `2 ^ -1074`. -/
inductive Exact where
  | infinite (negative : Bool)
  | finite (units : Int)
deriving DecidableEq

/-- The number one in units of `2 ^ -1074`. -/
def unitsOfOne : Int := 2 ^ 1074

def Exact.ofInt (i : Int) : Exact := .finite (i * unitsOfOne)

def significand (x : Binary64) : Nat :=
  if x.exponentField = 0 then x.fractionField else hiddenBit + x.fractionField

/-- How often the unit of the significand is doubled. -/
def scale (x : Binary64) : Nat := x.exponentField - 1

/-- The significand with the sign of the number. -/
def signed (x : Binary64) : Int := if x.isNegative then -x.significand else x.significand

def magnitudeUnits (x : Binary64) : Nat := x.significand * 2 ^ x.scale

def units (x : Binary64) : Int := if x.isNegative then -x.magnitudeUnits else x.magnitudeUnits

/-- The exact value, if there is one. -/
def exactValue? (x : Binary64) : Option Exact :=
  if x.isFinite then some (.finite x.units)
  else if x.isNaN then none
  else some (.infinite x.isNegative)

theorem unitsOfOne_ne_zero : unitsOfOne ≠ 0 := pow_ne_zero 1074 two_ne_zero

theorem Exact.ofInt_injective {i j : Int} (h : ofInt i = ofInt j) : i = j := by
  injection h with h
  exact mul_right_cancel₀ unitsOfOne_ne_zero h

/-! ### Fields of a pattern -/

theorem fractionField_lt (x : Binary64) : x.fractionField < hiddenBit :=
  Nat.mod_lt _ (by decide)

/-- Sign, exponent and fraction make up the pattern. -/
theorem ext_of_fields {x y : Binary64} (hsign : x.isNegative = y.isNegative)
    (hexponent : x.exponentField = y.exponentField)
    (hfraction : x.fractionField = y.fractionField) : x = y := by
  have hx := x.bits.toNat_lt
  have hy := y.bits.toNat_lt
  have hsign : signBit ≤ x.bits.toNat ↔ signBit ≤ y.bits.toNat := by
    simpa [isNegative] using hsign
  have hbits : x.bits.toNat = y.bits.toNat := by
    simp only [exponentField, fractionField, signBit, hiddenBit] at *
    omega
  cases x
  cases y
  exact congrArg mk (UInt64.toNat_inj.mp hbits)

theorem significand_lt (x : Binary64) : x.significand < 2 * hiddenBit := by
  have hlt := x.fractionField_lt
  unfold significand
  split <;> omega

/-- A significand whose unit is doubled has its leading bit. -/
theorem hiddenBit_le_significand {x : Binary64} (h : 0 < x.scale) :
    hiddenBit ≤ x.significand := by
  have hexponent : x.exponentField ≠ 0 := by
    unfold scale at h
    omega
  rw [significand, if_neg hexponent]
  exact Nat.le_add_right _ _

/-- Significand and scale tell exponent and fraction. -/
theorem fields_of_significand {x y : Binary64} (hsignificand : x.significand = y.significand)
    (hscale : x.scale = y.scale) :
    x.exponentField = y.exponentField ∧ x.fractionField = y.fractionField := by
  have hx := x.fractionField_lt
  have hy := y.fractionField_lt
  unfold significand at hsignificand
  unfold scale at hscale
  split at hsignificand <;> split at hsignificand <;> omega

/-! ### Equal magnitudes -/

/-- A number with leading bit has no other way to be written with a smaller unit. -/
theorem le_of_significands {s t bit i j : Nat} (hs : s < 2 * bit) (ht : 0 < j → bit ≤ t)
    (h : s * 2 ^ i = t * 2 ^ j) : j ≤ i := by
  by_contra hlt
  obtain ⟨d, rfl⟩ := Nat.exists_eq_add_of_lt (Nat.lt_of_not_le hlt)
  have hcancel : s = t * 2 ^ (d + 1) := by
    apply Nat.eq_of_mul_eq_mul_right (Nat.two_pow_pos i)
    calc s * 2 ^ i = t * 2 ^ (i + d + 1) := h
      _ = t * 2 ^ (d + 1) * 2 ^ i := by ring
  have hbit : bit ≤ t := ht (by omega)
  have hdouble : t * 2 ≤ s := by
    rw [hcancel]
    apply Nat.mul_le_mul_left
    exact Nat.le_self_pow (Nat.succ_ne_zero d) 2
  omega

theorem fields_of_magnitudeUnits {x y : Binary64} (h : x.magnitudeUnits = y.magnitudeUnits) :
    x.exponentField = y.exponentField ∧ x.fractionField = y.fractionField := by
  have hle : y.scale ≤ x.scale :=
    le_of_significands x.significand_lt hiddenBit_le_significand h
  have hge : x.scale ≤ y.scale :=
    le_of_significands y.significand_lt hiddenBit_le_significand h.symm
  have hscale : x.scale = y.scale := Nat.le_antisymm hge hle
  unfold magnitudeUnits at h
  rw [hscale] at h
  exact fields_of_significand (Nat.eq_of_mul_eq_mul_right (Nat.two_pow_pos _) h) hscale

theorem magnitudeUnits_eq_zero_iff {x : Binary64} :
    x.magnitudeUnits = 0 ↔ x.isZero = true := by
  have hbit : hiddenBit ≠ 0 := by decide
  unfold magnitudeUnits significand
  by_cases hexponent : x.exponentField = 0 <;> simp [isZero, hexponent, hbit]

/-- Finite numbers of one exact value are the same pattern, or both are zero. -/
theorem eq_or_isZero_of_units {x y : Binary64} (h : x.units = y.units) :
    x = y ∨ x.isZero = true ∧ y.isZero = true := by
  have hmagnitude : x.magnitudeUnits = y.magnitudeUnits := by
    unfold units at h
    split at h <;> split at h <;> omega
  by_cases hzero : x.magnitudeUnits = 0
  · exact .inr ⟨magnitudeUnits_eq_zero_iff.mp hzero,
      magnitudeUnits_eq_zero_iff.mp (hmagnitude.symm.trans hzero)⟩
  · left
    have hsign : x.isNegative = y.isNegative := by
      unfold units at h
      cases hx : x.isNegative <;> cases hy : y.isNegative <;> simp only [hx, hy] at h ⊢ <;>
        simp at h <;> omega
    obtain ⟨hexponent, hfraction⟩ := fields_of_magnitudeUnits hmagnitude
    exact ext_of_fields hsign hexponent hfraction

/-! ### Equality and exact values -/

theorem exactValue?_eq_finite_iff {x : Binary64} {n : Int} :
    x.exactValue? = some (.finite n) ↔ x.isFinite = true ∧ x.units = n := by
  unfold exactValue?
  split
  · next h => simp [h]
  · next h => split <;> simp [h]

theorem exactValue?_eq_infinite_iff {x : Binary64} {negative : Bool} :
    x.exactValue? = some (.infinite negative) ↔
      x.exponentField = 2047 ∧ x.fractionField = 0 ∧ x.isNegative = negative := by
  unfold exactValue?
  by_cases hexponent : x.exponentField = 2047 <;> by_cases hfraction : x.fractionField = 0 <;>
    simp [isFinite, isNaN, hexponent, hfraction]

theorem exactValue?_eq_none_iff {x : Binary64} : x.exactValue? = none ↔ x.isNaN = true := by
  unfold exactValue?
  by_cases hexponent : x.exponentField = 2047 <;> by_cases hfraction : x.fractionField = 0 <;>
    simp [isFinite, isNaN, hexponent, hfraction]

theorem exactValue?_of_isZero {x : Binary64} (h : x.isZero = true) :
    x.exactValue? = some (.finite 0) := by
  have hfinite : x.isFinite = true := by
    have hfields : x.exponentField = 0 ∧ x.fractionField = 0 := by simpa [isZero] using h
    simp [isFinite, hfields.1]
  have hunits : x.units = 0 := by
    rw [units, magnitudeUnits_eq_zero_iff.mpr h]
    split <;> rfl
  exact exactValue?_eq_finite_iff.mpr ⟨hfinite, hunits⟩

/-- Numbers are equal when they have one exact value. -/
theorem equal_iff {x y : Binary64} :
    x.equal y = true ↔ ∃ value, x.exactValue? = some value ∧ y.exactValue? = some value := by
  have hparts : x.equal y = true ↔
      x.isNaN = false ∧ y.isNaN = false ∧ (x = y ∨ x.isZero = true ∧ y.isZero = true) := by
    simp [equal, and_assoc]
  rw [hparts]
  constructor
  · rintro ⟨hnumber, -, rfl | ⟨hx, hy⟩⟩
    · have hsome : x.exactValue? ≠ none := by
        rw [Ne, exactValue?_eq_none_iff, hnumber]
        exact Bool.false_ne_true
      obtain ⟨value, hvalue⟩ := Option.ne_none_iff_exists'.mp hsome
      exact ⟨value, hvalue, hvalue⟩
    · exact ⟨.finite 0, exactValue?_of_isZero hx, exactValue?_of_isZero hy⟩
  · rintro ⟨value, hx, hy⟩
    have hnumber {z : Binary64} (hz : z.exactValue? = some value) : z.isNaN = false := by
      by_contra hnan
      have hnone : z.exactValue? = none := exactValue?_eq_none_iff.mpr (by simpa using hnan)
      rw [hnone] at hz
      contradiction
    refine ⟨hnumber hx, hnumber hy, ?_⟩
    cases value with
    | infinite negative =>
      obtain ⟨hxe, hxf, hxs⟩ := exactValue?_eq_infinite_iff.mp hx
      obtain ⟨hye, hyf, hys⟩ := exactValue?_eq_infinite_iff.mp hy
      exact .inl (ext_of_fields (hxs.trans hys.symm) (hxe.trans hye.symm) (hxf.trans hyf.symm))
    | finite n =>
      obtain ⟨-, hxn⟩ := exactValue?_eq_finite_iff.mp hx
      obtain ⟨-, hyn⟩ := exactValue?_eq_finite_iff.mp hy
      exact eq_or_isZero_of_units (hxn.trans hyn.symm)

/-- How a finite pattern is read. -/
theorem denote_of_isFinite {x : Binary64} (h : x.isFinite = true) :
    x.denote = .finite x.isNegative x.significand (x.scale - 1074) := by
  have hfinite : x.exponentField ≠ 2047 := by simpa [isFinite] using h
  rw [denote, if_neg hfinite, significand, scale]
  split
  · next hzero => simp [hzero]
  · next hzero =>
    congr 1
    omega

theorem units_eq_signed (x : Binary64) : x.units = x.signed * 2 ^ x.scale := by
  unfold units signed magnitudeUnits
  split <;> push_cast <;> ring

/-- To compare by the exponent of the last digit is to compare in the least units. -/
theorem scaled_eq_iff (n i : Int) (k : Nat) :
    (if 0 ≤ (k : Int) - 1074 then n * Nat.pow 2 ((k : Int) - 1074).toNat == i
      else n == i * Nat.pow 2 (-((k : Int) - 1074)).toNat) = true ↔
      n * 2 ^ k = i * unitsOfOne := by
  rw [unitsOfOne]
  split
  · next hle =>
    obtain ⟨d, rfl⟩ := Nat.exists_eq_add_of_le' (show 1074 ≤ k by omega)
    have hexponent : (((d + 1074 : Nat) : Int) - 1074).toNat = d := by omega
    rw [hexponent, pow_add, ← mul_assoc, mul_left_inj' (pow_ne_zero 1074 two_ne_zero)]
    simp
  · next hlt =>
    obtain ⟨d, hd⟩ := Nat.exists_eq_add_of_le' (show k ≤ 1074 by omega)
    have hexponent : (-((k : Int) - 1074)).toNat = d := by omega
    rw [hexponent, hd, pow_add, ← mul_assoc, mul_left_inj' (pow_ne_zero k two_ne_zero)]
    simp

theorem equalsInt_of_isFinite {x : Binary64} (h : x.isFinite = true) (i : Int) :
    x.equalsInt i = true ↔ x.units = i * unitsOfOne := by
  rw [equalsInt, denote_of_isFinite h, units_eq_signed]
  exact scaled_eq_iff x.signed i x.scale

theorem equalsInt_of_not_isFinite {x : Binary64} (h : ¬x.isFinite = true) (i : Int) :
    x.equalsInt i = false := by
  have hexponent : x.exponentField = 2047 := by simpa [isFinite] using h
  rw [equalsInt, denote, if_pos hexponent]
  by_cases hfraction : x.fractionField = 0
  · rw [if_pos hfraction]
  · rw [if_neg hfraction]

/-- A number is equal to an integer when that is its exact value. -/
theorem equalsInt_iff {x : Binary64} {i : Int} :
    x.equalsInt i = true ↔ x.exactValue? = some (.ofInt i) := by
  rw [Exact.ofInt, exactValue?_eq_finite_iff]
  by_cases hfinite : x.isFinite = true
  · rw [equalsInt_of_isFinite hfinite]
    exact (and_iff_right hfinite).symm
  · rw [equalsInt_of_not_isFinite hfinite]
    exact iff_of_false Bool.false_ne_true fun h ↦ hfinite h.1

end ClusterRouter.Binary64
