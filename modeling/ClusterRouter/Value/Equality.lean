import ClusterRouter.Value.Basic

/-!
# Equality of values

Integers and floating point numbers are one kind of number: they are equal when they have the same
exact value. A value that holds no number in place of a number is not equal to itself, so this is
an equality of documents and not of representations.
-/

namespace ClusterRouter

namespace Value

mutual

def equal : Value → Value → Bool
  | .null, .null => true
  | .bool a, .bool b => a == b
  | .int a, .int b => a == b
  | .float a, .float b => a.equal b
  | .int i, .float x => x.equalsInt i.toInt
  | .float x, .int i => x.equalsInt i.toInt
  | .string a, .string b => a == b
  | .list xs, .list ys => equalItems xs ys
  | .map xs, .map ys => equalFields xs ys
  | _, _ => false

def equalItems : List Value → List Value → Bool
  | [], [] => true
  | x :: xs, y :: ys => equal x y && equalItems xs ys
  | _, _ => false

def equalFields : List (String × Value) → List (String × Value) → Bool
  | [], [] => true
  | (k, x) :: xs, (l, y) :: ys => k == l && equal x y && equalFields xs ys
  | _, _ => false

end

instance : BEq Value := ⟨equal⟩

end Value

/-- The first position of an element equal to `value`. -/
def positionOf? (items : List Value) (value : Value) : Option Nat :=
  items.findIdx? (· == value)

end ClusterRouter
