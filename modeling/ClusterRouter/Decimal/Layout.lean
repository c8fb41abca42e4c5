import ClusterRouter.Decimal.Shortest

/-!
# Layout of floating point text

A `Layout` holds the decisions a format makes about its numbers: which ones are written
positionally, how an exponent is marked, and what stands for values that are no finite number.
-/

namespace ClusterRouter.Decimal

structure Layout where
  /-- The least exponent of the leading digit that is written positionally. -/
  least : Int
  /-- The greatest exponent of the leading digit that is written positionally. -/
  greatest : Int
  /-- The mark of an exponent that is not negative. -/
  positiveMark : String
  nan : String
  infinity : String
  negativeInfinity : String

def zeros (n : Nat) : List Char := List.replicate n '0'

/-- Digits around a point, one of them at least on each side. -/
def positional (digits : List Char) (leading : Int) : List Char :=
  if leading < 0 then '0' :: '.' :: zeros (-leading - 1).toNat ++ digits
  else
    let whole := leading.toNat + 1
    let fraction := digits.drop whole
    digits.take whole ++ zeros (whole - digits.length) ++ '.' ::
      (if fraction.isEmpty then ['0'] else fraction)

/-- One digit, the others after a point if there are any, and the exponent. -/
def scientific (layout : Layout) (digits : List Char) (leading : Int) : List Char :=
  let mantissa :=
    match digits with
    | [] => []
    | [d] => [d]
    | d :: rest => d :: '.' :: rest
  let mark := if leading < 0 then "e-" else layout.positiveMark
  mantissa ++ mark.toList ++ Nat.toDigits 10 leading.natAbs

def renderFinite (layout : Layout) (decimal : Decimal) : List Char :=
  if decimal.digits = 0 then ['0', '.', '0']
  else
    let digits := Nat.toDigits 10 decimal.digits
    let leading : Int := decimal.exponent + digits.length - 1
    if layout.least ≤ leading ∧ leading ≤ layout.greatest then positional digits leading
    else scientific layout digits leading

/-- The text of a number: its shortest digits in the given layout. -/
def render (layout : Layout) (x : Binary64) : String :=
  match x.denote with
  | .nan => layout.nan
  | .infinite negative => if negative then layout.negativeInfinity else layout.infinity
  | .finite negative significand exponent =>
    String.ofList ((if negative then ['-'] else []) ++
      renderFinite layout (shortest significand exponent))

end ClusterRouter.Decimal
