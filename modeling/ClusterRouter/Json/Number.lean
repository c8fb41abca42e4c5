import ClusterRouter.Value.Content

/-!
# Numbers in JSON

A number is read in two steps. `Numeral` is its text: sign, digits before and after the point and
the exponent. `Numeral.toContent?` gives what it holds: an integer that fits 64 bits, with a sign or
without one, stays an integer, and any other number is a floating point number.

The conversion to floating point rounds more than once. It keeps the digits that fit 64 bits,
rounds them, and multiplies or divides by a rounded power of ten, so the last place of a long
numeral need not be the nearest one.
-/

namespace ClusterRouter.Json

structure Numeral where
  negative : Bool
  whole : List Nat
  fraction : List Nat
  exponentNegative : Bool
  exponent : List Nat
  /-- The text has a point or an exponent. -/
  fractional : Bool

namespace Numeral

def wordLimit : Nat := UInt64.size

def exponentLimit : Nat := 2147483648

/-- Leading digits as long as the number they form fits a word, and the digits left over. -/
def absorb : Nat → List Nat → Nat × List Nat
  | word, [] => (word, [])
  | word, d :: rest =>
    if word * 10 + d < wordLimit then absorb (word * 10 + d) rest else (word, d :: rest)

/-- The digits that fit a word form the significand. The exponent grows with each digit left out
before the point and falls with each digit taken in after it. -/
def significand (n : Numeral) : Nat × Int :=
  let (whole, dropped) := absorb 0 n.whole
  let (word, unused) := absorb whole n.fraction
  (word, (dropped.length : Int) - (n.fraction.length - unused.length : Nat))

/-- The exponent as written, where it fits a signed 32-bit word. -/
def exponentValue? (n : Numeral) : Option Int :=
  let magnitude := n.exponent.foldl (fun acc d => acc * 10 + d) 0
  if magnitude < exponentLimit then some (if n.exponentNegative then -magnitude else magnitude)
  else none

def clampExponent (e : Int) : Int := max Int32.minValue.toInt (min e Int32.maxValue.toInt)

/-- Scales in steps of at most 308 places; `none` for a number beyond the finite ones. -/
def scale : Nat → Binary64 → Int → Option Binary64
  | 0, x, _ => some x
  | fuel + 1, x, exponent =>
    if exponent.natAbs ≤ 308 then
      let power := Binary64.ofNat (Nat.pow 10 exponent.natAbs)
      if 0 ≤ exponent then
        let product := x.mul power
        if product.isInfinite then none else some product
      else some (x.div power)
    else if x.isZero then some x
    else if 0 ≤ exponent then none
    else scale fuel (x.div (Binary64.ofNat (Nat.pow 10 308))) (exponent + 308)

def signed (negative : Bool) (x : Binary64) : Binary64 := if negative then x.negate else x

/-- Dividing more than four times by `10 ^ 308` leaves zero of any number. -/
def toBinary64? (n : Numeral) : Option Binary64 :=
  let (word, shift) := n.significand
  match n.exponentValue? with
  | some written =>
    (scale 8 (Binary64.ofNat word) (clampExponent (shift + written))).map (signed n.negative)
  | none =>
    if word ≠ 0 ∧ !n.exponentNegative then none
    else some (signed n.negative (Binary64.zero false))

/-- The number with a minus in front of a word. There is no negative integer for zero nor for a word
beyond the least one. -/
def negated (word : Nat) : Content :=
  let rounded := Content.float (Binary64.ofNat word).negate
  if word = 0 then rounded else ((Text.int64? (-word)).map .signed).getD rounded

/-- An integer beyond the words and all that has a point or an exponent are floating point
numbers. -/
def toContent? (n : Numeral) : Option Content :=
  if n.fractional then n.toBinary64?.map .float
  else
    match absorb 0 n.whole with
    | (word, []) => some (if n.negative then negated word else .unsigned (UInt64.ofNat word))
    | _ => n.toBinary64?.map .float

end Numeral

/-- The digits in front of a text, and the rest. -/
def takeDigits : List Char → List Nat × List Char
  | [] => ([], [])
  | c :: rest =>
    if c.isDigit then
      let (digits, after) := takeDigits rest
      ((c.toNat - 48) :: digits, after)
    else ([], c :: rest)

/-- The fraction of a numeral: a point needs digits. -/
def takeFraction? : List Char → Option (Option (List Nat) × List Char)
  | '.' :: rest =>
    match takeDigits rest with
    | ([], _) => none
    | (digits, after) => some (some digits, after)
  | rest => some (none, rest)

/-- Drops one sign and tells whether it was a minus. -/
def takeSign : List Char → Bool × List Char
  | '+' :: rest => (false, rest)
  | '-' :: rest => (true, rest)
  | rest => (false, rest)

/-- The exponent of a numeral: its mark needs digits. -/
def takeExponent? : List Char → Option (Option (Bool × List Nat) × List Char)
  | c :: rest =>
    if c = 'e' ∨ c = 'E' then
      let (negative, digitText) := takeSign rest
      match takeDigits digitText with
      | ([], _) => none
      | (digits, after) => some (some (negative, digits), after)
    else some (none, c :: rest)
  | [] => some (none, [])

/-- The numeral in front of a text. Only the number zero starts with the digit zero. -/
def takeNumeral? (text : List Char) : Option (Numeral × List Char) := do
  let (negative, unsigned) :=
    match text with
    | '-' :: rest => (true, rest)
    | rest => (false, rest)
  let (whole, afterWhole) := takeDigits unsigned
  match whole with
  | [] => none
  | 0 :: _ :: _ => none
  | _ => pure ()
  let (fraction, afterFraction) ← takeFraction? afterWhole
  let (exponent, rest) ← takeExponent? afterFraction
  let (exponentNegative, exponentDigits) := exponent.getD (false, [])
  pure ({ negative, whole, fraction := fraction.getD [], exponentNegative
          exponent := exponentDigits, fractional := fraction.isSome || exponent.isSome }, rest)

end ClusterRouter.Json
