import ClusterRouter.Proofs.Binary64.Rational
import ClusterRouter.Proofs.Value.Equality

/-!
# Equality of values is an exact partial equivalence

Equality is symmetric and transitive for values of any nesting, also where integers and floating
point numbers are mixed, and a value equals itself exactly when it holds no NaN. What makes this
work is that an integer is compared with the exact value of a floating point number: two different
integers never equal one number, as they would if they were rounded first.
-/

namespace ClusterRouter.Value

/-- Value equality is a partial equivalence, and exact on numbers. -/
structure ExactEquality : Prop where
  symm : ∀ a b : Value, (a == b) = (b == a)
  trans : ∀ a b c : Value, (a == b) = true → (b == c) = true → (a == c) = true
  self_iff : ∀ value : Value, (value == value) = true ↔ value.hasNaN = false
  /-- An integer equals the number that has its value. -/
  int_float_iff : ∀ (i : Int64) (x : Binary64), (Value.int i == Value.float x) = true ↔
    x.isFinite = true ∧ x.rational = i.toInt
  /-- This is to compare the whole part in 128 bits, where there is no fraction. -/
  int_float_iff_clamped : ∀ (i : Int64) (x : Binary64), (Value.int i == Value.float x) = true ↔
    x.isFinite = true ∧ x.rational = x.truncated ∧ x.clamped = i.toInt

theorem exact_equality : ExactEquality where
  symm := beq_comm
  trans _ _ _ := beq_trans
  self_iff value := by rw [beq_eq_equal, equal_self, Bool.not_eq_true']
  int_float_iff _ _ := Binary64.equalsInt_iff_rational
  int_float_iff_clamped _ _ := Binary64.equalsInt_iff_clamped

/-- The least integer and the number of its value, in a list in a map. -/
theorem exact_equality_of_least_integer :
    let held (value : Value) : Value := .map [("a", .list [value])]
    let least : Binary64 := ⟨0xc3e0000000000000⟩
    (held (.int Int64.minValue) == held (.float least)) = true ∧
      (held (.float least) == held (.int Int64.minValue)) = true ∧
      (held (.int Int64.minValue) == held (.int Int64.minValue)) = true ∧
      least.isFinite = true ∧ least.rational = Int64.minValue.toInt := by
  intro held least
  have hthere : (held (.int Int64.minValue) == held (.float least)) = true := by decide
  have hback : (held (.float least) == held (.int Int64.minValue)) = true := by decide
  have hequal : (Value.int Int64.minValue == Value.float least) = true := by decide
  exact ⟨hthere, hback, exact_equality.trans _ _ _ hthere hback,
    (exact_equality.int_float_iff _ _).mp hequal⟩

/-- Rounded to a floating point number, this integer would be the one before it. -/
example : (Value.int 9007199254740993 == .float ⟨0x4340000000000000⟩) = false := by decide

end ClusterRouter.Value
