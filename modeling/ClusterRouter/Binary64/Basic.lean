/-!
# Binary floating point numbers

A number is its 64-bit pattern. `denote` reads the pattern as an exact real number, an infinity or
no number, and all arithmetic here is exact arithmetic on naturals followed by one rounding to the
nearest number, halves going to the even neighbour.
-/

namespace ClusterRouter

structure Binary64 where
  bits : UInt64
deriving DecidableEq, Inhabited

namespace Binary64

/-- What a pattern stands for. A finite number is `± significand * 2 ^ exponent`. -/
inductive Denotation where
  | nan
  | infinite (negative : Bool)
  | finite (negative : Bool) (significand : Nat) (exponent : Int)
deriving DecidableEq

/-- The weight of the sign, `2 ^ 63`. -/
def signBit : Nat := 9223372036854775808

/-- The weight of the exponent, `2 ^ 52`, which the fraction of a normal number adds to itself. -/
def hiddenBit : Nat := 4503599627370496

def isNegative (x : Binary64) : Bool := signBit ≤ x.bits.toNat

def exponentField (x : Binary64) : Nat := x.bits.toNat / hiddenBit % 2048

def fractionField (x : Binary64) : Nat := x.bits.toNat % hiddenBit

def denote (x : Binary64) : Denotation :=
  if x.exponentField = 2047 then
    if x.fractionField = 0 then .infinite x.isNegative else .nan
  else if x.exponentField = 0 then .finite x.isNegative x.fractionField (-1074)
  else .finite x.isNegative (hiddenBit + x.fractionField) (x.exponentField - 1075)

def isNaN (x : Binary64) : Bool := x.exponentField = 2047 ∧ x.fractionField ≠ 0

def isInfinite (x : Binary64) : Bool := x.exponentField = 2047 ∧ x.fractionField = 0

def isFinite (x : Binary64) : Bool := x.exponentField ≠ 2047

def isZero (x : Binary64) : Bool := x.exponentField = 0 ∧ x.fractionField = 0

def nan : Binary64 := ⟨0x7ff8000000000000⟩

def infinity (negative : Bool) : Binary64 :=
  ⟨if negative then 0xfff0000000000000 else 0x7ff0000000000000⟩

def zero (negative : Bool) : Binary64 := ⟨if negative then 0x8000000000000000 else 0⟩

/-- Numeric equality: no number equals nothing, the two zeros are one number. -/
def equal (x y : Binary64) : Bool :=
  !x.isNaN && !y.isNaN && (x == y || x.isZero && y.isZero)

/-- The exact value of `x` is the integer `i`. -/
def equalsInt (x : Binary64) (i : Int) : Bool :=
  match x.denote with
  | .finite negative significand exponent =>
    let signed : Int := if negative then -significand else significand
    if 0 ≤ exponent then signed * Nat.pow 2 exponent.toNat == i
    else signed == i * Nat.pow 2 (-exponent).toNat
  | _ => false

/-- `num / 2 ^ exponent` as a quotient of naturals. -/
def shifted (num den : Nat) (exponent : Int) : Nat × Nat :=
  if 0 ≤ exponent then (num, den <<< exponent.toNat) else (num <<< (-exponent).toNat, den)

/-- The quotient, rounded to the nearest natural, halves to the even one. -/
def roundDiv (num den : Nat) : Nat :=
  let quotient := num / den
  let twice := 2 * (num % den)
  if twice < den then quotient
  else if den < twice then quotient + 1
  else quotient + quotient % 2

/-- The exponent that leaves 53 bits of `num / den` in front of the point, or the least one. -/
def unitExponent (num den : Nat) : Int :=
  let guess : Int := (num.log2 : Int) - den.log2 - 52
  let (n, d) := shifted num den (guess + 52)
  max (if d ≤ n then guess else guess - 1) (-1074)

/-- The number nearest to `num / den`, for a positive `den`. -/
def ofRatio (negative : Bool) (num den : Nat) : Binary64 :=
  if num = 0 then zero negative
  else
    let exponent := unitExponent num den
    let (n, d) := shifted num den exponent
    let pattern := (exponent + 1074).toNat * hiddenBit + roundDiv n d
    if 2047 * hiddenBit ≤ pattern then infinity negative
    else ⟨UInt64.ofNat ((if negative then signBit else 0) + pattern)⟩

def ofNat (n : Nat) : Binary64 := ofRatio false n 1

def ofInt (i : Int) : Binary64 := ofRatio (i < 0) i.natAbs 1

/-- The number nearest to `digits * 10 ^ exponent`. -/
def ofDecimal (negative : Bool) (digits : Nat) (exponent : Int) : Binary64 :=
  if 0 ≤ exponent then ofRatio negative (digits * Nat.pow 10 exponent.toNat) 1
  else ofRatio negative digits (Nat.pow 10 (-exponent).toNat)

/-- The exact absolute value of a finite number as a quotient. -/
def magnitude (x : Binary64) : Nat × Nat :=
  match x.denote with
  | .finite _ significand exponent => shifted significand 1 (-exponent)
  | _ => (0, 1)

/-- The rounded product of finite numbers. -/
def mul (x y : Binary64) : Binary64 :=
  let (a, b) := x.magnitude
  let (c, d) := y.magnitude
  ofRatio (x.isNegative != y.isNegative) (a * c) (b * d)

/-- The rounded quotient of finite numbers, for a divisor other than zero. -/
def div (x y : Binary64) : Binary64 :=
  let (a, b) := x.magnitude
  let (c, d) := y.magnitude
  ofRatio (x.isNegative != y.isNegative) (a * d) (b * c)

def negate (x : Binary64) : Binary64 := ⟨x.bits ^^^ 0x8000000000000000⟩

end Binary64

end ClusterRouter
