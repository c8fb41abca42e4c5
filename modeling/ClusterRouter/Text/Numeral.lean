/-!
# Decimal integers

The text of an integer is its decimal digits behind a minus sign where it is negative. Some
integers fit a word of 64 bits.
-/

namespace ClusterRouter.Text

def ofNat (n : Nat) : List Char := Nat.toDigits 10 n

def ofInt (i : Int) : List Char := if i < 0 then '-' :: ofNat i.natAbs else ofNat i.natAbs

def ofInt64 (i : Int64) : List Char := ofInt i.toInt

/-- The integer as a signed word, if it fits. -/
def int64? (i : Int) : Option Int64 :=
  if Int64.minValue.toInt ≤ i ∧ i ≤ Int64.maxValue.toInt then some (Int64.ofInt i) else none

/-- The number that decimal digits form. -/
def natOfDigits (digits : List Char) : Nat :=
  digits.foldl (fun n c => n * 10 + (c.toNat - 48)) 0

end ClusterRouter.Text
