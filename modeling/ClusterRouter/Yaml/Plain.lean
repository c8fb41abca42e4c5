import ClusterRouter.Text.Numeral
import ClusterRouter.Value.Basic
import ClusterRouter.Text.Escape

/-!
# What plain scalars mean

The text of a plain scalar alone decides whether it is null, a boolean, a number or a string.
Digits with a leading zero are a string and no number.
-/

namespace ClusterRouter.Yaml

inductive Plain where
  | null
  | bool (b : Bool)
  | integer (n : Int)
  | float (x : Binary64)
  | text
deriving DecidableEq

namespace Plain

def isNull (s : String) : Bool := s == "null" || s == "Null" || s == "NULL" || s == "~"

def bool? (s : String) : Option Bool :=
  if s == "true" || s == "True" || s == "TRUE" then some true
  else if s == "false" || s == "False" || s == "FALSE" then some false
  else none

/-- The number that digits of a base form; there must be one at least. -/
def digits? (base : Nat) (cs : List Char) : Option Nat :=
  if cs.isEmpty then none
  else
    cs.foldl (fun acc c => do
      let n ← acc
      let d ← Text.hexValue? c
      if d < base then pure (n * base + d) else none) (some 0)

def isSign (c : Char) : Bool := c == '+' || c == '-'

/-- A zero with further digits behind it. -/
def isPadded (cs : List Char) : Bool :=
  let unsigned :=
    match cs with
    | c :: rest => if isSign c then rest else c :: rest
    | [] => []
  match unsigned with
  | '0' :: d :: rest => (d :: rest).all Char.isDigit
  | _ => false

/-- A magnitude: hexadecimal, octal or binary behind its mark, or decimal. -/
def magnitude? (cs : List Char) : Option Nat :=
  match cs with
  | '0' :: 'x' :: rest => digits? 16 rest
  | '0' :: 'o' :: rest => digits? 8 rest
  | '0' :: 'b' :: rest => digits? 2 rest
  | _ => if isPadded cs then none else digits? 10 cs

def integer? : List Char → Option Int
  | '+' :: rest => (magnitude? rest).map Int.ofNat
  | '-' :: rest => (magnitude? rest).map fun n => -(n : Int)
  | cs => (magnitude? cs).map Int.ofNat

/-- The size of an exponent. Once it has reached 65536 further digits do not count. -/
def exponentSize? (cs : List Char) : Option Nat :=
  if cs.isEmpty then none
  else
    cs.foldl (fun acc c => do
      let n ← acc
      if ¬ c.isDigit then none
      else if n < 65536 then pure (n * 10 + (c.toNat - '0'.toNat))
      else pure n) (some 0)

/-- The exponent of a decimal behind its mark. -/
def exponent? : List Char → Option Int
  | '+' :: rest => (exponentSize? rest).map Int.ofNat
  | '-' :: rest => (exponentSize? rest).map fun n => -(n : Int)
  | cs => (exponentSize? cs).map Int.ofNat

/-- The number nearest to that of some digits times a power of ten. Beyond 400 places in front of
the point or behind it a number is infinite or zero, whatever its digits; zeros that lead are no
places. -/
def nearest (negative : Bool) (digits : List Char) (exponent : Int) : Option Binary64 := do
  let significant := digits.dropWhile (· == '0')
  let places := significant.length + exponent
  let significand ← digits? 10 digits
  if significand = 0 then pure (.zero negative)
  else if 400 < places then pure (.infinity negative)
  else if places < -400 then pure (.zero negative)
  else pure (.ofDecimal negative significand exponent)

/-- Digits with or without a point and an exponent. -/
def decimal? (negative : Bool) (cs : List Char) : Option Binary64 := do
  let whole := cs.takeWhile Char.isDigit
  let rest := cs.drop whole.length
  let (fraction, rest) :=
    match rest with
    | '.' :: after => (after.takeWhile Char.isDigit, after.dropWhile Char.isDigit)
    | _ => ([], rest)
  let exponent ←
    match rest with
    | [] => some 0
    | c :: after => if c == 'e' || c == 'E' then exponent? after else none
  nearest negative (whole ++ fraction) (exponent - fraction.length)

/-- A finite number; one that is too big is none. -/
def finite? (cs : List Char) : Option Binary64 :=
  let number :=
    match cs with
    | '-' :: rest => decimal? true rest
    | _ => decimal? false cs
  number.filter Binary64.isFinite

def isInfinity (s : String) : Bool := s == ".inf" || s == ".Inf" || s == ".INF"

def float? (s : String) : Option Binary64 :=
  let cs := s.toList
  if cs.head? == some '+' && (cs.drop 1).head?.any isSign then none
  else
    let unsigned := if cs.head? == some '+' then cs.drop 1 else cs
    if isInfinity (String.ofList unsigned) then some (.infinity false)
    else if cs.head? == some '-' && isInfinity (String.ofList (cs.drop 1)) then
      some (.infinity true)
    else if s == ".nan" || s == ".NaN" || s == ".NAN" then some .nan
    else finite? unsigned

/-- The integers that are told from other numbers have 128 bits. -/
def isWide (n : Int) : Bool :=
  -170141183460469231731687303715884105728 ≤ n &&
    n < 340282366920938463463374607431768211456

def ofText (s : String) : Plain :=
  if s.isEmpty || isNull s then .null
  else
    match bool? s with
    | some b => .bool b
    | none =>
      match (integer? s.toList).filter isWide with
      | some n => .integer n
      | none =>
        if isPadded s.toList then .text
        else
          match float? s with
          | some x => .float x
          | none => .text

/-- A signed integer keeps 64 bits; one that fits only an unsigned word becomes a floating point
number, and a wider one has no value. -/
def integerValue? (n : Int) : Option Value :=
  match Text.int64? n with
  | some i => some (.int i)
  | none => if 0 ≤ n ∧ n < UInt64.size then some (.float (.ofInt n)) else none

def value? (s : String) : Option Value :=
  match ofText s with
  | .null => some .null
  | .bool b => some (.bool b)
  | .integer n => integerValue? n
  | .float x => some (.float x)
  | .text => some (.string s)

end Plain

end ClusterRouter.Yaml
