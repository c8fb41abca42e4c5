import ClusterRouter.Proofs.Binary64.Exact
import Mathlib.Data.Rat.Floor
import Mathlib.Tactic.FieldSimp

/-!
# Binary floating point numbers as rationals

The value of a finite pattern by the formula of the format. A number is equal to an integer exactly
when it is finite and this value is the integer. It comes to the same to ask whether the value is
whole and, cut to the range of 128 bits, this integer: no 64-bit integer is one of the ends of that
range, so nothing is taken for an integer that it is not.
-/

namespace ClusterRouter.Binary64

/-- The absolute value of a finite number: below the least normal number the fraction alone, else
the fraction behind a leading one. -/
def absRational (x : Binary64) : ℚ :=
  if x.exponentField = 0 then 2 ^ (-1022 : ℤ) * (x.fractionField / 2 ^ 52)
  else 2 ^ ((x.exponentField : ℤ) - 1023) * (1 + x.fractionField / 2 ^ 52)

/-- The value of a finite number. -/
def rational (x : Binary64) : ℚ := if x.isNegative then -x.absRational else x.absRational

/-- The value without its fraction. -/
def truncated (x : Binary64) : ℤ := if x.rational < 0 then ⌈x.rational⌉ else ⌊x.rational⌋

/-- The value without its fraction, cut to the range of 128-bit integers. -/
def clamped (x : Binary64) : ℤ := max (-2 ^ 127) (min (2 ^ 127 - 1) x.truncated)

theorem magnitudeUnits_eq_absRational (x : Binary64) :
    (x.magnitudeUnits : ℚ) = x.absRational * 2 ^ 1074 := by
  have hunits : (2 : ℚ) ^ 1074 = 2 ^ (1022 : ℤ) * 2 ^ 52 := by
    rw [← Nat.cast_ofNat (n := 1022), zpow_natCast, ← pow_add]
  unfold magnitudeUnits significand absRational scale
  split
  · next hzero =>
    rw [hzero, hunits, zpow_neg]
    field_simp
    simp
  · next hnormal =>
    have hexponent : (2 : ℚ) ^ ((x.exponentField : ℤ) - 1023) * 2 ^ (1022 : ℤ) =
        2 ^ (x.exponentField - 1) := by
      rw [← zpow_add₀ two_ne_zero, ← zpow_natCast]
      congr 1
      omega
    have hbit : (hiddenBit : ℚ) = 2 ^ 52 := by norm_num [hiddenBit]
    calc ((((hiddenBit + x.fractionField) * 2 ^ (x.exponentField - 1) : ℕ)) : ℚ)
        = (2 ^ 52 + x.fractionField) * 2 ^ (x.exponentField - 1) := by
          push_cast
          rw [hbit]
      _ = (2 ^ 52 + x.fractionField) *
          (2 ^ ((x.exponentField : ℤ) - 1023) * 2 ^ (1022 : ℤ)) := by rw [hexponent]
      _ = 2 ^ ((x.exponentField : ℤ) - 1023) * (1 + x.fractionField / 2 ^ 52) *
          (2 ^ (1022 : ℤ) * 2 ^ 52) := by
          field_simp
      _ = _ := by rw [hunits]

/-- A finite number in units of `2 ^ -1074` is its value as a multiple of them. -/
theorem units_eq_rational (x : Binary64) : (x.units : ℚ) = x.rational * unitsOfOne := by
  have hone : ((unitsOfOne : ℤ) : ℚ) = 2 ^ 1074 := by
    rw [unitsOfOne, Int.cast_pow, Int.cast_ofNat]
  have hmagnitude := x.magnitudeUnits_eq_absRational
  rw [hone, units, rational]
  split
  · rw [Int.cast_neg, Int.cast_natCast, hmagnitude, neg_mul]
  · rw [Int.cast_natCast, hmagnitude]

/-- A number is equal to an integer when it is finite and its value is the integer. -/
theorem equalsInt_iff_rational {x : Binary64} {i : Int} :
    x.equalsInt i = true ↔ x.isFinite = true ∧ x.rational = i := by
  rw [equalsInt_iff, Exact.ofInt, exactValue?_eq_finite_iff]
  apply and_congr_right
  intro _
  have hone : ((unitsOfOne : ℤ) : ℚ) ≠ 0 := Int.cast_ne_zero.mpr unitsOfOne_ne_zero
  rw [← Int.cast_inj (α := ℚ), units_eq_rational, Int.cast_mul]
  exact mul_left_inj' hone

/-- The range of 128 bits is wide enough to compare with 64-bit integers. -/
theorem equalsInt_iff_clamped {x : Binary64} {i : Int64} :
    x.equalsInt i.toInt = true ↔
      x.isFinite = true ∧ x.rational = x.truncated ∧ x.clamped = i.toInt := by
  have hleast := i.le_toInt
  have hgreatest := i.toInt_lt
  rw [equalsInt_iff_rational]
  apply and_congr_right
  intro _
  constructor
  · intro hvalue
    have htruncated : x.truncated = i.toInt := by
      rw [truncated, hvalue, Int.ceil_intCast, Int.floor_intCast, ite_self]
    refine ⟨by rw [hvalue, htruncated], ?_⟩
    rw [clamped, htruncated]
    omega
  · rintro ⟨hwhole, hclamped⟩
    have htruncated : x.truncated = i.toInt := by
      unfold clamped at hclamped
      omega
    rw [hwhole, htruncated]

end ClusterRouter.Binary64
