import ShopQuery.Number.Digits

/-!
# Ranges of characters

Sets of characters, written as the ranges that they consist of: hexadecimal numbers in ascending
order with blanks between them. A character stands for itself; the first and the last of several
have a hyphen between them.
-/

namespace ShopQuery

/-- A set of characters as the first and last number of each of its ranges. -/
structure CharRanges where
  ranges : List (Nat × Nat)
deriving DecidableEq, Repr

/-- The words of a table: what stands between spaces and line ends. -/
def tableWords (text : String) : List (List Char) :=
  (text.toList.splitOnP fun c => c = ' ' || c = '\n').filter fun word => !word.isEmpty

namespace CharRanges

def readRange (word : List Char) : Nat × Nat :=
  match (word.splitOn '-').map (numberInBase 16) with
  | [first, last] => (first, last)
  | numbers => (numbers.headD 0, numbers.headD 0)

def ofText (text : String) : CharRanges := ⟨(tableWords text).map readRange⟩

def contains (set : CharRanges) (c : Char) : Bool :=
  set.ranges.any fun r => r.1 ≤ c.toNat && c.toNat ≤ r.2

/-- Characters alone and ranges may follow each other. -/
example : ofText "41-5A 5F" = ⟨[(0x41, 0x5A), (0x5F, 0x5F)]⟩ := by decide

end CharRanges

end ShopQuery
