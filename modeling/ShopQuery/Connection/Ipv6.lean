import ShopQuery.Number.Digits

/-!
# IPv6 addresses

Eight groups of 16 bits, written as hexadecimal numbers with colons between them. Two colons stand
for as many groups of zero as are missing, and the last two groups may be written as four decimal
numbers with dots. In the shortest form, the colons stand for the first longest run of zeros.
-/

namespace ShopQuery.Ipv6

/-! ## 1. Reading -/

/-- A number below 256 without zeros in front. -/
def octetNumber (ds : List Char) : Option Nat :=
  if !ds.isEmpty && ds.all Char.isDigit && (ds.length = 1 || ds.head? != some '0') &&
      decimalNumber ds < 256 then some (decimalNumber ds)
  else none

def dottedNumbers (cs : List Char) : Option (List Nat) := (cs.splitOn '.').mapM octetNumber

/-- The groups of an IPv6 address read so far, and after how many of them the gap stands. -/
structure Groups where
  values : List Nat
  gap : Option Nat

/-- Reads the groups of an IPv6 address. A gap counts as one group of zero while reading. -/
def readGroups : (fuel : Nat) → Groups → List Char → Option Groups
  | 0, _, _ => none
  | _ + 1, groups, [] => some groups
  | fuel + 1, groups, c :: rest =>
    if groups.values.length = 8 then none
    else if c = ':' then
      if groups.gap.isSome then none
      else
        let values := groups.values ++ [0]
        readGroups fuel ⟨values, some values.length⟩ rest
    else
      let digits := ((c :: rest).take 4).takeWhile isHexDigit
      match (c :: rest).drop digits.length with
      | [] => readGroups fuel ⟨groups.values ++ [numberInBase 16 digits], groups.gap⟩ []
      | '.' :: _ =>
        if digits.isEmpty || 6 < groups.values.length then none
        else
          match dottedNumbers (c :: rest) with
          | some [a, b, c, d] =>
            some ⟨groups.values ++ [a * 256 + b, c * 256 + d], groups.gap⟩
          | _ => none
      | [':'] => none
      | ':' :: after =>
        readGroups fuel ⟨groups.values ++ [numberInBase 16 digits], groups.gap⟩ after
      | _ => none

/-- The eight groups of an IPv6 address. -/
def read? (cs : List Char) : Option (List Nat) :=
  let start : Option (Groups × List Char) :=
    match cs with
    | [] => none
    | [_] => none
    | ':' :: ':' :: rest => some (⟨[0], some 1⟩, rest)
    | ':' :: _ => none
    | cs => some (⟨[], none⟩, cs)
  match start with
  | none => none
  | some (groups, rest) =>
    match readGroups (rest.length + 1) groups rest with
    | none => none
    | some ⟨values, some gap⟩ =>
      some (values.take gap ++ List.replicate (8 - values.length) 0 ++ values.drop gap)
    | some ⟨values, none⟩ => if values.length = 8 then some values else none

/-! ## 2. Writing -/

/-- The length of the run of zeros at the beginning of a list. -/
def zeroRun (groups : List Nat) : Nat := (groups.takeWhile (· = 0)).length

/-- The position and length of the first longest run of zeros. -/
def longestZeroRun (groups : List Nat) : Nat × Nat :=
  (List.range groups.length).foldl
    (fun best i => if best.2 < zeroRun (groups.drop i) then (i, zeroRun (groups.drop i)) else best)
    (0, 0)

/-- Groups with colons between them. -/
def joinGroups (groups : List Nat) : List Char :=
  [':'].intercalate (groups.map (Nat.toDigits 16))

/-- The shortest form of an address, in brackets. -/
def write (groups : List Nat) : List Char :=
  let (start, length) := longestZeroRun groups
  let body :=
    if 2 ≤ length then
      joinGroups (groups.take start) ++ ':' :: ':' :: joinGroups (groups.drop (start + length))
    else joinGroups groups
  '[' :: (body ++ [']'])

end ShopQuery.Ipv6
