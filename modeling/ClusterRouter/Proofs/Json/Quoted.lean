import ClusterRouter.Json.Decoder
import ClusterRouter.Json.Printer
import Mathlib.Tactic.Common

/-!
# Strings read back

Every character comes back from its escape, and the quote behind a string ends it, since no escape
leaves a quote that stands alone.
-/

namespace ClusterRouter.Json

theorem takeUnit?_append {text rest : List Char} {unit : Nat}
    (h : takeUnit? text = some (unit, rest)) (tail : List Char) :
    takeUnit? (text ++ tail) = some (unit, rest ++ tail) := by
  unfold takeUnit? at h
  split at h
  · obtain ⟨found, hfound, hpair⟩ := Option.map_eq_some_iff.mp h
    cases hpair
    simp only [List.cons_append, takeUnit?, hfound, Option.map_some]
  · contradiction

/-- The digits of a control character form its number. -/
theorem takeUnit?_hexPadded {n : Nat} (h : n < 0x20) (tail : List Char) :
    takeUnit? (Text.hexPadded 4 n ++ tail) = some (n, tail) := by
  have hdigits : ∀ n < 0x20, takeUnit? (Text.hexPadded 4 n) = some (n, []) := by decide
  exact takeUnit?_append (hdigits n h) tail

theorem charOf?_toNat (c : Char) : Text.charOf? c.toNat = some c := by
  have hvalid : c.toNat.isValidChar := c.valid
  rw [Text.charOf?, dif_pos hvalid]
  rfl

theorem takeEscapedUnit?_hexPadded {c : Char} (h : c.toNat < 0x20) (tail : List Char) :
    takeEscapedUnit? (Text.hexPadded 4 c.toNat ++ tail) = some (c, tail) := by
  have hplain : ¬(0xd800 ≤ c.toNat ∧ c.toNat < 0xdc00) := by omega
  simp [takeEscapedUnit?, takeUnit?_hexPadded h, if_neg hplain, charOf?_toNat]

/-- One character is read back from what it is written as. -/
theorem takeCharacters?_escapeChar (fuel : Nat) (c : Char) (tail : List Char) :
    takeCharacters? (fuel + 1) (escapeChar c ++ tail) =
      (takeCharacters? fuel tail).map fun found ↦ (c :: found.1, found.2) := by
  have hescape {text : List Char} (h : takeEscape? text = some (c, tail)) :
      takeCharacters? (fuel + 1) ('\\' :: text) =
        (takeCharacters? fuel tail).map fun found ↦ (c :: found.1, found.2) := by
    simp only [takeCharacters?, h, Option.bind_eq_bind, Option.bind_some]
    cases takeCharacters? fuel tail <;> rfl
  unfold escapeChar
  split
  case h_8 hquote hbackslash _ _ _ _ _ =>
    split
    · next hcontrol => exact hescape (takeEscapedUnit?_hexPadded hcontrol tail)
    · next hplain =>
      rw [List.singleton_append, takeCharacters?, if_neg hplain]
      · cases takeCharacters? fuel tail <;> rfl
      · exact hquote
      · exact hbackslash
  all_goals exact hescape rfl

theorem length_escapeChar_pos (c : Char) : 0 < (escapeChar c).length := by
  unfold escapeChar
  repeat' split
  all_goals exact Nat.zero_lt_succ _

theorem takeCharacters?_flatMap {fuel : Nat} {cs : List Char}
    (hfuel : (cs.flatMap escapeChar).length < fuel) (rest : List Char) :
    takeCharacters? fuel (cs.flatMap escapeChar ++ '"' :: rest) = some (cs, rest) := by
  induction cs generalizing fuel with
  | nil =>
    obtain ⟨fuel, rfl⟩ := Nat.exists_eq_add_one_of_ne_zero (Nat.ne_of_gt hfuel)
    rfl
  | cons c cs ih =>
    have hc := length_escapeChar_pos c
    rw [List.flatMap_cons, List.length_append] at hfuel
    obtain ⟨fuel, rfl⟩ := Nat.exists_eq_add_one_of_ne_zero (Nat.ne_of_gt (Nat.zero_lt_of_lt hfuel))
    rw [List.flatMap_cons, List.append_assoc, takeCharacters?_escapeChar, ih (by omega)]
    rfl

theorem quoted_append (s : String) (rest : List Char) :
    quoted s ++ rest = '"' :: (s.toList.flatMap escapeChar ++ '"' :: rest) := by
  simp [quoted]

theorem takeString?_quoted (s : String) (rest : List Char) :
    takeString? (s.toList.flatMap escapeChar ++ '"' :: rest) = some (s, rest) := by
  have hfuel : (s.toList.flatMap escapeChar).length <
      (s.toList.flatMap escapeChar ++ '"' :: rest).length + 1 := by
    rw [List.length_append]
    omega
  rw [takeString?, takeCharacters?_flatMap hfuel]
  exact congrArg (fun text ↦ some (text, rest)) String.ofList_toList

end ClusterRouter.Json
