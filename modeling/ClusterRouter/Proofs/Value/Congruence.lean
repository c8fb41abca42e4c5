import ClusterRouter.Proofs.Value.Equality
import Mathlib.Data.List.Forall2

/-!
# Building with equal values

What is made in one way of equal parts is equal: lists that get, change or lose items in one place,
and maps whose entries are written or erased under one key. Questions about equal lists and maps
have one answer.
-/

namespace ClusterRouter.Value

/-! ### Lists and maps -/

theorem beq_congr {a b : Value} (h : (a == b) = true) (c : Value) : (a == c) = (b == c) := by
  apply Bool.eq_iff_iff.mpr
  constructor
  · exact fun hac ↦ beq_trans ((beq_comm b a).trans h) hac
  · exact fun hbc ↦ beq_trans h hbc

theorem equalItems_iff {xs ys : List Value} :
    equalItems xs ys = true ↔ List.Forall₂ (fun x y ↦ (x == y) = true) xs ys := by
  induction xs generalizing ys with
  | nil => cases ys <;> simp [equalItems]
  | cons x xs ih => cases ys with
    | nil => simp [equalItems]
    | cons y ys => rw [equalItems_cons, List.forall₂_cons, ih]

theorem equalFields_iff {xs ys : Fields} :
    equalFields xs ys = true ↔
      List.Forall₂ (fun x y ↦ x.1 = y.1 ∧ (x.2 == y.2) = true) xs ys := by
  induction xs generalizing ys with
  | nil => cases ys <;> simp [equalFields]
  | cons x xs ih => cases ys with
    | nil => simp [equalFields]
    | cons y ys => rw [equalFields_cons, List.forall₂_cons, ih, and_assoc]

theorem equalItems_append {xs ys : List Value} (h : equalItems xs ys = true) {x y : Value}
    (hlast : (x == y) = true) : equalItems (xs ++ [x]) (ys ++ [y]) = true := by
  rw [equalItems_iff] at h ⊢
  exact List.rel_append h (.cons hlast .nil)

theorem equalItems_set {xs ys : List Value} (h : equalItems xs ys = true) (place : Nat)
    {x y : Value} (hnew : (x == y) = true) :
    equalItems (xs.set place x) (ys.set place y) = true := by
  rw [equalItems_iff] at h ⊢
  induction h generalizing place with
  | nil => exact .nil
  | cons hhead htail ih => cases place with
    | zero => exact .cons hnew htail
    | succ place => exact .cons hhead (ih place)

theorem equalItems_eraseIdx {xs ys : List Value} (h : equalItems xs ys = true) (place : Nat) :
    equalItems (xs.eraseIdx place) (ys.eraseIdx place) = true := by
  rw [equalItems_iff] at h ⊢
  induction h generalizing place with
  | nil => exact .nil
  | cons hhead htail ih => cases place with
    | zero => exact htail
    | succ place => exact .cons hhead (ih place)

theorem contains_congr {xs ys : List Value} (h : equalItems xs ys = true) (value : Value) :
    xs.contains value = ys.contains value := by
  rw [equalItems_iff] at h
  induction h with
  | nil => rfl
  | @cons x y xs ys hhead htail ih =>
    rw [List.contains_cons, List.contains_cons, ih, beq_comm value x, beq_congr hhead value,
      beq_comm y value]

theorem positionOf?_congr {xs ys : List Value} (h : equalItems xs ys = true) (value : Value) :
    positionOf? xs value = positionOf? ys value := by
  unfold positionOf?
  rw [equalItems_iff] at h
  induction h with
  | nil => rfl
  | cons hhead htail ih => rw [List.findIdx?_cons, List.findIdx?_cons, beq_congr hhead value, ih]

theorem equalFields_insert {xs ys : Fields} (h : equalFields xs ys = true) (key : String)
    {x y : Value} (hnew : (x == y) = true) :
    equalFields (Fields.insert xs key x) (Fields.insert ys key y) = true := by
  rw [equalFields_iff] at h ⊢
  induction h with
  | nil => exact .cons ⟨rfl, hnew⟩ .nil
  | @cons entry other xs ys hentry htail ih =>
    unfold Fields.insert
    rw [hentry.1]
    split
    · exact .cons ⟨rfl, hnew⟩ htail
    · split
      · exact .cons ⟨rfl, hnew⟩ (.cons ⟨rfl, hentry.2⟩ htail)
      · exact .cons ⟨rfl, hentry.2⟩ ih

theorem equalFields_erase {xs ys : Fields} (h : equalFields xs ys = true) (key : String) :
    equalFields (Fields.erase xs key) (Fields.erase ys key) = true := by
  rw [equalFields_iff] at h ⊢
  induction h with
  | nil => exact .nil
  | @cons entry other xs ys hentry htail ih =>
    unfold Fields.erase
    rw [hentry.1]
    split
    · exact htail
    · exact .cons ⟨rfl, hentry.2⟩ ih

theorem equalFields_merge {xs ys incoming : Fields} (h : equalFields xs ys = true)
    (hincoming : anyNaNField incoming = false) :
    equalFields (Fields.merge xs incoming) (Fields.merge ys incoming) = true := by
  unfold Fields.merge
  induction incoming generalizing xs ys with
  | nil => exact h
  | cons entry incoming ih =>
    obtain ⟨key, value⟩ := entry
    obtain ⟨hvalue, hrest⟩ := Bool.or_eq_false_iff.mp hincoming
    exact ih (equalFields_insert h key (beq_self hvalue)) hrest

/-! ### What may be missing -/

theorem bind_beq {found other : Option Value} {f g : Value → Option Value}
    (h : (found == other) = true) (hfg : ∀ a b, (a == b) = true → (f a == g b) = true) :
    (found.bind f == other.bind g) = true := by
  rcases cases_of_option_beq h with ⟨rfl, rfl⟩ | ⟨a, b, rfl, rfl, hequal⟩
  · rfl
  · exact hfg a b hequal

theorem some_beq_congr {found other : Option Value} (h : (found == other) = true)
    (value : Value) : (found == some value) = (other == some value) := by
  rcases cases_of_option_beq h with ⟨rfl, rfl⟩ | ⟨a, b, rfl, rfl, hequal⟩
  · rfl
  · exact beq_congr hequal value

theorem isSome_congr {found other : Option Value} (h : (found == other) = true) :
    found.isSome = other.isSome := by
  rcases cases_of_option_beq h with ⟨rfl, rfl⟩ | ⟨a, b, rfl, rfl, -⟩ <;> rfl

theorem contains_key_congr {xs ys : Fields} (h : equalFields xs ys = true) (key : String) :
    Fields.contains xs key = Fields.contains ys key :=
  isSome_congr (get?_beq_of_equalFields h key)

end ClusterRouter.Value
