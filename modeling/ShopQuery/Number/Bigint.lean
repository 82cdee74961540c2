/-!
# Checked sums

Sums of 64-bit integers that are refused, not wrapped, where they do not fit.
-/

namespace ShopQuery

/-- An integer as a 64-bit one, if it fits. -/
def int64OfInt? (n : Int) : Option Int64 :=
  if Int64.minValue.toInt ≤ n ∧ n ≤ Int64.maxValue.toInt then some (Int64.ofInt n) else none

/-- A sum that fits. -/
def addChecked (a b : Int64) : Option Int64 := int64OfInt? (a.toInt + b.toInt)

/-- The sum of a list, from the left; none once a partial sum does not fit. -/
def sumChecked (xs : List Int64) : Option Int64 :=
  xs.foldl (fun total x => total.bind (addChecked · x)) (some 0)

end ShopQuery
