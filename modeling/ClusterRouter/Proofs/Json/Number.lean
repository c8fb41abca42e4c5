import ClusterRouter.Json.Number
import ClusterRouter.Proofs.Value.Content

/-!
# Integers read back

The text of an integer is read as one numeral, up to a character that cannot carry a numeral on, and
the numeral of an integer that fits a word holds that integer and no floating point number.
-/

namespace ClusterRouter.Json

/-- What follows does not carry a numeral on. -/
def EndsNumeral (rest : List Char) : Prop :=
  ∀ c, rest.head? = some c → c.isDigit = false ∧ c ≠ '.' ∧ c ≠ 'e' ∧ c ≠ 'E'

def digitValue (c : Char) : Nat := c.toNat - 48

theorem takeDigits_append {digits rest : List Char} (hdigits : ∀ c ∈ digits, c.isDigit = true)
    (hrest : EndsNumeral rest) : takeDigits (digits ++ rest) = (digits.map digitValue, rest) := by
  induction digits with
  | nil =>
    cases rest with
    | nil => rfl
    | cons c rest =>
      rw [List.nil_append, takeDigits, (hrest c rfl).1]
      rfl
  | cons c digits ih =>
    obtain ⟨hc, hmore⟩ := List.forall_mem_cons.mp hdigits
    rw [List.cons_append, takeDigits, if_pos hc, ih hmore]
    rfl

theorem takeFraction?_of_ends {rest : List Char} (h : EndsNumeral rest) :
    takeFraction? rest = some (none, rest) := by
  unfold takeFraction?
  split
  · exact absurd rfl (h '.' rfl).2.1
  · rfl

theorem takeExponent?_of_ends {rest : List Char} (h : EndsNumeral rest) :
    takeExponent? rest = some (none, rest) := by
  cases rest with
  | nil => rfl
  | cons c rest =>
    obtain ⟨-, -, hsmall, hbig⟩ := h c rfl
    rw [takeExponent?, if_neg (not_or.mpr ⟨hsmall, hbig⟩)]

namespace Numeral

/-- The numeral of an integer. -/
def ofInt (i : Int) : Numeral where
  negative := decide (i < 0)
  whole := (Text.ofNat i.natAbs).map digitValue
  fraction := []
  exponentNegative := false
  exponent := []
  fractional := false

theorem absorb_of_lt {word : Nat} {digits : List Nat}
    (h : digits.foldl (fun n d ↦ n * 10 + d) word < wordLimit) :
    absorb word digits = (digits.foldl (fun n d ↦ n * 10 + d) word, []) := by
  have hle (digits : List Nat) : ∀ word, word ≤ digits.foldl (fun n d ↦ n * 10 + d) word := by
    induction digits with
    | nil => exact fun _ ↦ Nat.le_refl _
    | cons d digits ih => exact fun word ↦ Nat.le_trans (by omega) (ih (word * 10 + d))
  induction digits generalizing word with
  | nil => rfl
  | cons d digits ih =>
    rw [List.foldl_cons] at h ⊢
    rw [absorb, if_pos (Nat.lt_of_le_of_lt (hle digits _) h), ih h]

theorem absorb_digits {n : Nat} (h : n < wordLimit) :
    absorb 0 ((Text.ofNat n).map digitValue) = (n, []) := by
  have hfold : ((Text.ofNat n).map digitValue).foldl (fun n d ↦ n * 10 + d) 0 = n := by
    rw [List.foldl_map]
    exact Text.natOfDigits_ofNat n
  rw [absorb_of_lt (by rwa [hfold]), hfold]

theorem negated_of_neg {i : Int64} (h : i.toInt < 0) : negated i.toInt.natAbs = .signed i := by
  have hne : i.toInt.natAbs ≠ 0 := by omega
  have hint : (-i.toInt.natAbs : Int) = i.toInt := by omega
  rw [negated, if_neg hne, hint, Text.int64?_toInt]
  rfl

/-- The numeral of a word holds an integer. -/
theorem toContent?_ofInt (i : Int64) : (ofInt i.toInt).toContent? = some (Value.int i).content := by
  have hfit : i.toInt.natAbs < wordLimit := by
    have hlimit : wordLimit = 2 ^ 64 := rfl
    have hlow := i.le_toInt
    have hhigh := i.toInt_lt
    omega
  rw [toContent?, ofInt, absorb_digits hfit, Value.content]
  by_cases hsign : i.toInt < 0
  · simp [hsign, negated_of_neg hsign]
  · simp [hsign]

end Numeral

theorem eq_zero_of_digitValue {c : Char} (hc : c.isDigit = true) (h : digitValue c = 0) :
    c = '0' := by
  have hrange := Text.toNat_of_isDigit hc
  have hzero : c.toNat = '0'.toNat := by
    rw [digitValue] at h
    change c.toNat = 48
    omega
  exact Char.toNat_inj.mp hzero

/-- No zero stands in front of other digits. -/
theorem digits_ne_padded (n d : Nat) (more : List Nat) :
    (Text.ofNat n).map digitValue ≠ 0 :: d :: more := by
  intro hpadded
  cases hn : Text.ofNat n with
  | nil => exact Text.ofNat_ne_nil n hn
  | cons c digits =>
    rw [hn, List.map_cons, List.cons.injEq] at hpadded
    obtain ⟨hc, hmore⟩ := hpadded
    have hdigit : c.isDigit = true :=
      Text.isDigit_of_mem_ofNat (n := n) (hn ▸ List.mem_cons_self)
    obtain rfl := eq_zero_of_digitValue hdigit hc
    rcases Nat.eq_zero_or_pos n with rfl | hpos
    · cases hn
      contradiction
    · exact Text.head?_ofNat_ne hpos (by rw [hn, List.head?_cons])

theorem takeNumeral?_ofInt {i : Int} {rest : List Char} (h : EndsNumeral rest) :
    takeNumeral? (Text.ofInt i ++ rest) = some (Numeral.ofInt i, rest) := by
  have hdigits := takeDigits_append (fun c ↦ Text.isDigit_of_mem_ofNat (n := i.natAbs)) h
  unfold takeNumeral?
  split
  next negative unsigned hsign =>
    obtain ⟨rfl, rfl⟩ : negative = decide (i < 0) ∧ unsigned = Text.ofNat i.natAbs ++ rest := by
      unfold Text.ofInt at hsign
      split at hsign
      · next after hminus =>
        cases hsign
        split at hminus
        · next hnegative => exact ⟨(decide_eq_true hnegative).symm, (List.cons.inj hminus).2.symm⟩
        · obtain ⟨c, more, hc, hdigit⟩ := Text.exists_ofNat_append i.natAbs rest
          rw [hc] at hminus
          obtain rfl := (List.cons.inj hminus).1
          exact absurd hdigit (by decide)
      · next hplain =>
        cases hsign
        split
        · next hnegative => exact (hplain _ (by rw [if_pos hnegative]; rfl)).elim
        · next hpositive => exact ⟨(decide_eq_false hpositive).symm, rfl⟩
    simp only [hdigits]
    split
    · next hnone => exact absurd (List.map_eq_nil_iff.mp hnone) (Text.ofNat_ne_nil _)
    · next hpadded => exact absurd hpadded (digits_ne_padded _ _ _)
    · simp [takeFraction?_of_ends h, takeExponent?_of_ends h, Numeral.ofInt]

end ClusterRouter.Json
