import ClusterRouter.Binary64.Basic

/-!
# Shortest decimal digits

The digits of a finite number are those of the shortest decimal that reads back as that number; of
several the nearest, and of two equally near the even one. A decimal reads back exactly when it
lies in the interval of reals that round to the number, whose ends count iff the significand is
even.
-/

namespace ClusterRouter

/-- `digits * 10 ^ exponent`. -/
structure Decimal where
  digits : Nat
  exponent : Int
deriving DecidableEq, Inhabited

namespace Decimal

/-- The reals that round to a number, all in units of a quarter of its last place. -/
structure Interval where
  low : Nat
  middle : Nat
  high : Nat
  closed : Bool

/-- The gap below a power of two is half of the gap above it. -/
def Interval.ofSignificand (significand : Nat) (exponent : Int) : Interval :=
  let narrow := significand == Binary64.hiddenBit && exponent != -1074
  { low := 4 * significand - (if narrow then 1 else 2)
    middle := 4 * significand
    high := 4 * significand + 2
    closed := significand % 2 == 0 }

/-- Both sides over one denominator: `n * 10 ^ e` and `m * 2 ^ k` as naturals to be compared. -/
def commonScale (power10 power2 : Int) : Nat × Nat :=
  let ten (e : Int) : Nat := Nat.pow 10 e.toNat
  let two (k : Int) : Nat := Nat.pow 2 k.toNat
  (ten power10 * two (-power2), ten (-power10) * two power2)

def Interval.contains (interval : Interval) (left right digits : Nat) : Bool :=
  let point := digits * left
  if interval.closed then interval.low * right ≤ point && point ≤ interval.high * right
  else interval.low * right < point && point < interval.high * right

/-- The best point of the grid of multiples of `10 ^ power` that reads back, if there is one. -/
def onGrid (interval : Interval) (exponent power : Int) : Option Nat :=
  let (left, right) := commonScale power (exponent - 2)
  let below := interval.middle * right / left
  let downward := interval.middle * right - below * left
  let upward := (below + 1) * left - interval.middle * right
  match interval.contains left right below, interval.contains left right (below + 1) with
  | false, false => none
  | true, false => some below
  | false, true => some (below + 1)
  | true, true =>
    if downward < upward then some below
    else if upward < downward then some (below + 1)
    else some (below + below % 2)

/-- How many decimal digits stand before the point of `significand * 2 ^ exponent`. -/
def leadingPlace (significand : Nat) (exponent : Int) : Int :=
  let digitCount (n : Nat) : Int := (Nat.toDigits 10 n).length
  if 0 ≤ exponent then digitCount (significand * Nat.pow 2 exponent.toNat)
  else digitCount (significand * Nat.pow 10 340 / Nat.pow 2 (-exponent).toNat) - 340

/-- Drops the zeros at the end of the digits. -/
def trim (digits : Nat) (exponent : Int) : Nat → Decimal
  | 0 => ⟨digits, exponent⟩
  | fuel + 1 =>
    if digits % 10 == 0 then trim (digits / 10) (exponent + 1) fuel else ⟨digits, exponent⟩

/-- The first grid, from coarse to fine, with a point that reads back. -/
def search (interval : Interval) (exponent place : Int) : Nat → Nat → Option Decimal
  | _, 0 => none
  | count, fuel + 1 =>
    match onGrid interval exponent (place - count) with
    | some digits => some (trim digits (place - count) 18)
    | none => search interval exponent place (count + 1) fuel

/-- The shortest decimal that reads back as `significand * 2 ^ exponent`; seventeen digits always
suffice. -/
def shortest (significand : Nat) (exponent : Int) : Decimal :=
  if significand = 0 then ⟨0, 0⟩
  else
    (search (.ofSignificand significand exponent) exponent (leadingPlace significand exponent) 1
      18).getD ⟨significand, exponent⟩

end Decimal

end ClusterRouter
