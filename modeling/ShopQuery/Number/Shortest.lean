import ShopQuery.Number.Binary64

/-!
# Shortest decimals

The fewest decimal digits that read back as a given magnitude, and among those the nearest to it.

## The grid argument

A magnitude owns the interval of reals that round to it; the ends belong to it exactly when its
mantissa is even. On the grid of multiples of a power of ten, if any point lies in the interval
then so does one of the two neighbours of the value itself. So it is enough to test these two,
for one digit, two digits, and so on; seventeen always suffice.
-/

namespace ShopQuery

/-- The number `digits * 10 ^ exponent`. -/
structure Decimal where
  digits : Nat
  exponent : Int
deriving DecidableEq, Repr

namespace Magnitude

/-! ## 1. The interval, in quarters of the last place -/

/-- The interval's lower end in quarter places. The gap below a power of two is half as wide. -/
def lowerEnd (x : Magnitude) : Nat :=
  if x.mantissa = twoTo 52 && x.exponent != minExponent then 4 * x.mantissa - 1
  else 4 * x.mantissa - 2

/-- The interval's upper end in quarter places. -/
def upperEnd (x : Magnitude) : Nat := 4 * x.mantissa + 2

/-- Whether `n * 10 ^ k` rounds to the magnitude. -/
def owns (x : Magnitude) (n : Nat) (k : Int) : Bool :=
  let q := x.exponent - 2
  let point := n * tenTo k.toNat * twoTo (-q).toNat
  let unit := twoTo q.toNat * tenTo (-k).toNat
  let low := x.lowerEnd * unit
  let high := x.upperEnd * unit
  if x.mantissa % 2 = 0 then low ≤ point && point ≤ high else low < point && point < high

/-! ## 2. The search -/

/-- The greatest `p` with `10 ^ p` at most the magnitude, which is positive. The factor
`10 ^ 340` makes the least magnitude exceed one. -/
def log10Floor (x : Magnitude) : Int :=
  let scaled := x.numerator * tenTo 340 / x.denominator
  ((Nat.toDigits 10 scaled).length : Int) - 341

/-- The better of the two neighbours of the magnitude on the grid `10 ^ k`: one that rounds to the
magnitude, the nearer if both do, the even one if they are equally near. -/
def neighbour? (x : Magnitude) (k : Int) : Option Nat :=
  let num := x.numerator * tenTo (-k).toNat
  let den := x.denominator * tenTo k.toNat
  let below := num / den
  let nearest := roundDiv num den
  if x.owns nearest k then some nearest
  else if x.owns below k then some below
  else if x.owns (below + 1) k then some (below + 1)
  else none

/-- Tries `count` more digit counts, the first being `digits`. -/
def searchDigits (x : Magnitude) (top : Int) : (count digits : Nat) → Option Decimal
  | 0, _ => none
  | count + 1, digits =>
    let k := top - digits + 1
    match x.neighbour? k with
    | some n => some ⟨n, k⟩
    | none => searchDigits x top count (digits + 1)

/-- The shortest decimal that reads back as the magnitude. -/
def shortest (x : Magnitude) : Decimal :=
  if x.mantissa = 0 then ⟨0, 0⟩
  else (searchDigits x x.log10Floor 17 1).getD ⟨x.numerator, 0⟩

end Magnitude

/-! ## 3. Digits as text -/

/-- The digits without the zeros at their end. -/
def stripZeros (ds : List Char) : List Char :=
  (ds.reverse.dropWhile (· == '0')).reverse

/-- How a number is laid out: positionally where the power of ten of its first digit lies in a
range, in scientific form outside it. -/
structure NumberLayout where
  /-- The least power of ten of a first digit written positionally. -/
  least : Int
  /-- The greatest one. -/
  greatest : Int
deriving DecidableEq, Repr

/-- Lays out a decimal. A whole number keeps `.0`; a scientific exponent keeps its sign. -/
def NumberLayout.write (layout : NumberLayout) (d : Decimal) : List Char :=
  if d.digits = 0 then ['0', '.', '0']
  else
    let all := Nat.toDigits 10 d.digits
    let ds := stripZeros all
    let top : Int := (all.length : Int) - 1 + d.exponent
    if layout.least ≤ top && top ≤ layout.greatest then
      if top < 0 then '0' :: '.' :: (List.replicate (-top - 1).toNat '0' ++ ds)
      else
        let whole := top.toNat + 1
        if ds.length ≤ whole then ds ++ List.replicate (whole - ds.length) '0' ++ ['.', '0']
        else ds.take whole ++ '.' :: ds.drop whole
    else
      let mantissa := if ds.length ≤ 1 then ds else ds.take 1 ++ '.' :: ds.drop 1
      let sign := if top < 0 then '-' else '+'
      mantissa ++ 'e' :: sign :: Nat.toDigits 10 top.natAbs

end ShopQuery
