import ShopQuery.Number.Power

/-!
# Binary floating point, exactly

A finite binary64 value is a sign and a magnitude `mantissa * 2 ^ exponent`. All arithmetic is on
integers: a product or quotient of magnitudes is first an exact fraction, then rounded once.

## Normal form

`Magnitude.nearest` answers mantissas below `2 ^ 53` and exponents from `-1074` to `971`, with a
mantissa of at least `2 ^ 52` unless the exponent is `-1074`. So equal values are equal terms.
-/

namespace ShopQuery

/-! ## 1. Rounding -/

/-- The integer nearest to `num / den`; a half goes to the even neighbour. -/
def roundDiv (num den : Nat) : Nat :=
  let q := num / den
  let twice := 2 * (num % den)
  if twice < den then q
  else if den < twice then q + 1
  else q + q % 2

/-- The nonnegative value `mantissa * 2 ^ exponent`. -/
structure Magnitude where
  mantissa : Nat
  exponent : Int
deriving DecidableEq, Repr

namespace Magnitude

def minExponent : Int := -1074

def maxExponent : Int := 971

/-- Nothing. -/
def zero : Magnitude := ⟨0, minExponent⟩

def numerator (x : Magnitude) : Nat := x.mantissa * twoTo x.exponent.toNat

def denominator (x : Magnitude) : Nat := twoTo (-x.exponent).toNat

/-- The greatest `k` with `2 ^ k ≤ num / den`, for positive `num` and `den`. -/
def log2Floor (num den : Nat) : Int :=
  let k : Int := (num.log2 : Int) - den.log2
  if den * twoTo k.toNat ≤ num * twoTo (-k).toNat then k else k - 1

/-- The magnitude nearest to `num / den`, for a positive `den`; none where it would be beyond the
greatest one. -/
def nearest (num den : Nat) : Option Magnitude :=
  if num = 0 then some zero
  else
    let e := max minExponent (log2Floor num den - 52)
    let m := roundDiv (num * twoTo (-e).toNat) (den * twoTo e.toNat)
    let x : Magnitude := if m = twoTo 53 then ⟨twoTo 52, e + 1⟩ else ⟨m, e⟩
    if x.exponent ≤ maxExponent then some x else none

/-- The magnitude nearest to a natural number. -/
def ofNat (n : Nat) : Option Magnitude := nearest n 1

def mul (x y : Magnitude) : Option Magnitude :=
  nearest (x.numerator * y.numerator) (x.denominator * y.denominator)

/-- The rounded quotient, for a positive divisor. -/
def div (x y : Magnitude) : Option Magnitude :=
  nearest (x.numerator * y.denominator) (x.denominator * y.numerator)

end Magnitude

/-! ## 2. Signed values -/

/-- A finite value with its sign; zero has two. -/
structure Binary64 where
  negative : Bool
  magnitude : Magnitude
deriving DecidableEq, Repr

end ShopQuery
