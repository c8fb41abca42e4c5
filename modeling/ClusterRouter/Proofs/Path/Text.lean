import ClusterRouter.Path.Parser
import ClusterRouter.Proofs.Path.Index
import ClusterRouter.Proofs.Text.Numeral
import Mathlib.Data.List.TakeWhile
import Mathlib.Tactic.Common

/-!
# Reading path texts

A path text is read step by step: an index from its bracket on, and a key as far as its characters
go. A number in brackets is cut off at the ends of the signed 64-bit range, which lets it lead to no
place that it would not lead to by itself.
-/

namespace ClusterRouter

namespace Path

theorem parse_eq_ok_iff {text : String} {separator : Separator} {path : Path} :
    parse text separator = .ok path ↔ segments? separator text.toList = some path := by
  unfold parse
  cases segments? separator text.toList <;> simp

/-- A run ends where a text goes on with something else. -/
theorem takeWhile_append_of_nil {p : Char → Bool} {tail : List Char} (h : tail.takeWhile p = [])
    (text : List Char) : (text ++ tail).takeWhile p = text.takeWhile p := by
  induction text with
  | nil => exact h
  | cons c text ih => simp only [List.cons_append, List.takeWhile_cons, ih]

theorem dropWhile_append_of_nil {p : Char → Bool} {tail : List Char} (h : tail.takeWhile p = [])
    (text : List Char) : (text ++ tail).dropWhile p = text.dropWhile p ++ tail := by
  induction text with
  | nil =>
    have hall := List.takeWhile_append_dropWhile (p := p) (l := tail)
    rw [h] at hall
    exact hall
  | cons c text ih =>
    simp only [List.cons_append, List.dropWhile_cons, ih]
    split <;> rfl

/-- The sign of an index. -/
def sign (negative : Bool) : List Char := if negative then ['-'] else []

theorem takeMinus_sign {text : List Char} (h : text.head? ≠ some '-') (negative : Bool) :
    takeMinus (sign negative ++ text) = (negative, text) := by
  cases negative with
  | true => rfl
  | false =>
    change takeMinus text = (false, text)
    unfold takeMinus
    split
    · exact absurd rfl h
    · rfl

theorem sign_takeMinus (text : List Char) :
    sign (takeMinus text).1 ++ (takeMinus text).2 = text := by
  unfold takeMinus
  split <;> rfl

theorem head?_digits_ne_minus {digits rest : List Char} (hne : digits ≠ [])
    (hdigits : ∀ c ∈ digits, Text.isDecimalDigit c = true) :
    (digits ++ rest).head? ≠ some '-' := by
  cases digits with
  | nil => contradiction
  | cons c digits =>
    intro h
    cases h
    exact absurd (hdigits '-' List.mem_cons_self) (by decide)

/-- An index is a sign, decimal digits and a closing bracket. -/
theorem takeIndex?_eq_some_iff {text rest : List Char} {index : Int64} :
    takeIndex? text = some (index, rest) ↔
      ∃ negative digits, digits ≠ [] ∧ (∀ c ∈ digits, Text.isDecimalDigit c = true) ∧
        text = sign negative ++ (digits ++ ']' :: rest) ∧ index = indexOf negative digits := by
  constructor
  · intro h
    have hall := List.takeWhile_append_dropWhile (p := Text.isDecimalDigit) (l := (takeMinus text).2)
    unfold takeIndex? at h
    simp only at h
    split at h
    · next c digits after hdigits hafter =>
      cases h
      refine ⟨(takeMinus text).1, c :: digits, List.cons_ne_nil _ _, fun d hd ↦ ?_, ?_, ?_⟩
      · rw [← hdigits] at hd
        exact List.mem_takeWhile_imp hd
      · rw [hdigits, hafter] at hall
        rw [hall, sign_takeMinus]
      · rw [hdigits]
    · contradiction
  · rintro ⟨negative, digits, hne, hdigits, rfl, rfl⟩
    have hstop : (']' :: rest).takeWhile Text.isDecimalDigit = [] := by
      rw [List.takeWhile_cons_of_neg (by decide)]
    have hall : digits.takeWhile Text.isDecimalDigit = digits :=
      List.takeWhile_eq_self_iff.mpr hdigits
    have hnone : digits.dropWhile Text.isDecimalDigit = [] :=
      List.dropWhile_eq_nil_iff.mpr hdigits
    unfold takeIndex?
    rw [takeMinus_sign (head?_digits_ne_minus hne hdigits)]
    simp only
    rw [takeWhile_append_of_nil hstop, dropWhile_append_of_nil hstop, hall, hnone]
    cases digits with
    | nil => contradiction
    | cons c digits => rfl

theorem segments?_bracket (separator : Separator) {rest after : List Char} {index : Int64}
    (h : takeIndex? rest = some (index, after)) :
    segments? separator ('[' :: rest) =
      (segments? separator (dropSeparator separator after)).map (.index index :: ·) := by
  rw [segments?]
  split
  · next hindex =>
    cases h.symm.trans hindex
    rfl
  · next hnone =>
    rw [h] at hnone
    contradiction

theorem segments?_key {separator : Separator} {c : Char} (h : isKeyChar separator c = true)
    (rest : List Char) :
    segments? separator (c :: rest) =
      (segments? separator (dropSeparator separator (rest.dropWhile (isKeyChar separator)))).map
        (.key (String.ofList (c :: rest.takeWhile (isKeyChar separator))) :: ·) := by
  have hbracket : c ≠ '[' := by
    rintro rfl
    revert h
    cases separator <;> decide
  rw [segments?, if_pos h]
  exact hbracket

/-! ### Numbers in paths -/

theorem isDecimalDigit_of_isDigit {c : Char} (h : c.isDigit = true) :
    Text.isDecimalDigit c = true := by
  have hrange := Text.toNat_of_isDigit h
  exact List.any_eq_true.mpr ⟨(0x30, 0x39), List.mem_cons_self, by simpa using hrange⟩

theorem indexOf_ofNat (n : Nat) : indexOf false (Text.ofNat n) = saturate n := by
  rw [indexOf, if_pos (List.all_eq_true.mpr fun c hc ↦ Text.isDigit_of_mem_ofNat hc),
    Text.natOfDigits_ofNat]
  rfl

theorem toInt_saturate (i : Int) :
    (saturate i).toInt = max Int64.minValue.toInt (min i Int64.maxValue.toInt) := by
  have hmin : Int64.minValue.toInt = -2 ^ 63 := rfl
  have hmax : Int64.maxValue.toInt = 2 ^ 63 - 1 := rfl
  unfold saturate
  apply Int64.toInt_ofInt_of_le <;> omega

/-- A saturated integer means the place that the integer itself counts to: none is reached by
cutting off. -/
theorem resolveIndex_saturate_iff {i : Int} {length place : Nat} :
    resolveIndex (saturate i) length = some place ↔
      (length : Int) ≤ Int64.maxValue.toInt ∧ -(length : Int) ≤ i ∧ i < length ∧
        (place : Int) = if 0 ≤ i then i else i + length := by
  have hmin : Int64.minValue.toInt = -2 ^ 63 := rfl
  have hmax : Int64.maxValue.toInt = 2 ^ 63 - 1 := rfl
  rw [resolveIndex_eq_some_iff, toInt_saturate]
  split <;> split <;> omega

/-- A position leads to itself in every list whose places can be counted. -/
theorem resolveIndex_saturate {n length : Nat} (h : n < length) :
    resolveIndex (saturate n) length =
      if (length : Int) ≤ Int64.maxValue.toInt then some n else none := by
  split
  · next hlength =>
    refine resolveIndex_saturate_iff.mpr ⟨hlength, by omega, by omega, ?_⟩
    rw [if_pos (by omega)]
  · next hlength => exact if_neg hlength

end Path

end ClusterRouter
