import ClusterRouter.Text.Numeral
import Mathlib.Tactic.Common

/-!
# Texts of integers

The digits of a number form that number again, and only zero has a text that begins with a zero.
-/

namespace ClusterRouter.Text

theorem toNat_of_isDigit {c : Char} (h : c.isDigit = true) : 0x30 ≤ c.toNat ∧ c.toNat ≤ 0x39 := by
  simpa [Char.isDigit, UInt32.le_iff_toNat_le] using h

theorem natOfDigits_ofNat (n : Nat) : natOfDigits (ofNat n) = n := by
  have hfold : natOfDigits = fun digits ↦ Nat.ofDigitChars 10 digits 0 := by
    funext digits
    rw [natOfDigits, Nat.ofDigitChars_eq_foldl]
    congr
    funext total c
    rw [Nat.mul_comm]
    rfl
  rw [hfold]
  exact Nat.ofDigitChars_ten_toDigits

theorem isDigit_of_mem_ofNat {n : Nat} {c : Char} (h : c ∈ ofNat n) : c.isDigit = true :=
  Nat.isDigit_of_mem_toDigits (by decide) (by decide) h

theorem ofNat_ne_nil (n : Nat) : ofNat n ≠ [] := Nat.toDigits_ne_nil

/-- The text of a number begins with a digit. -/
theorem exists_ofNat_append (n : Nat) (rest : List Char) :
    ∃ c more, ofNat n ++ rest = c :: more ∧ c.isDigit = true := by
  cases hn : ofNat n with
  | nil => exact absurd hn (ofNat_ne_nil n)
  | cons c more =>
    exact ⟨c, more ++ rest, rfl, isDigit_of_mem_ofNat (n := n) (hn ▸ List.mem_cons_self)⟩

/-- The text of an integer begins with a digit or a minus sign. -/
theorem exists_ofInt_append (i : Int) (rest : List Char) :
    ∃ c more, ofInt i ++ rest = c :: more ∧ (c.isDigit = true ∨ c = '-') := by
  rw [ofInt]
  split
  · exact ⟨'-', ofNat i.natAbs ++ rest, rfl, .inr rfl⟩
  · obtain ⟨c, more, htext, hdigit⟩ := exists_ofNat_append i.natAbs rest
    exact ⟨c, more, htext, .inl hdigit⟩

theorem ofNat_of_lt {n : Nat} (h : n < 10) : ofNat n = [n.digitChar] := Nat.toDigits_of_lt_base h

theorem ofNat_of_le {n : Nat} (h : 10 ≤ n) : ofNat n = ofNat (n / 10) ++ [(n % 10).digitChar] :=
  Nat.toDigits_of_base_le (by decide) h

/-- The digits of a positive number do not begin with a zero. -/
theorem head?_ofNat_ne {n : Nat} (h : 0 < n) : (ofNat n).head? ≠ some '0' := by
  induction n using Nat.strongRecOn with
  | ind n ih =>
    by_cases hn : n < 10
    · have hdigit : ∀ d < 10, 0 < d → d.digitChar ≠ '0' := by decide
      rw [ofNat_of_lt hn, List.head?_cons]
      exact fun heq ↦ hdigit n hn h (Option.some.inj heq)
    · have hfront := ih (n / 10) (by omega) (by omega)
      rw [ofNat_of_le (by omega), List.head?_append]
      cases hhead : (ofNat (n / 10)).head? with
      | none => exact absurd (List.head?_eq_none_iff.mp hhead) (ofNat_ne_nil _)
      | some c =>
        rw [hhead] at hfront
        exact hfront

/-- Every word fits. -/
theorem int64?_toInt (i : Int64) : int64? i.toInt = some i := by
  rw [int64?, if_pos ⟨i.minValue_le_toInt, i.toInt_le⟩, Int64.ofInt_toInt]

end ClusterRouter.Text
