import ShopQuery.Number.Digits
import ShopQuery.Number.Power

/-!
# IPv4 addresses

One to four numbers with dots between them. A domain name that ends in a number has to be an
address.
-/

namespace ShopQuery.Ipv4

/-- The number that a part of an address spells: decimal, octal after a zero, or hexadecimal
after `0x`. -/
def readNumber (cs : List Char) : Option Nat :=
  match cs with
  | '0' :: 'x' :: ds => if ds.all isHexDigit then some (numberInBase 16 ds) else none
  | '0' :: d :: ds =>
    if (d :: ds).all fun d => '0' ≤ d && d ≤ '7' then
      some (numberInBase 8 (d :: ds))
    else none
  | [] => none
  | ds =>
    if ds.all Char.isDigit then some (decimalNumber ds) else none

/-- The parts of a domain name. A dot at the end does not count. -/
def domainParts (cs : List Char) : List (List Char) :=
  let parts := cs.splitOn '.'
  if parts.getLast? = some [] && 1 < parts.length then parts.dropLast else parts

/-- A domain name whose last part is a number is an address. -/
def endsInNumber (cs : List Char) : Bool :=
  match (domainParts cs).getLast? with
  | some last =>
    !last.isEmpty &&
      (last.all Char.isDigit || (last.take 2 = ['0', 'x'] && (readNumber last).isSome))
  | none => false

/-- An address of one to four numbers, of which the last takes up the room that is left. -/
def isAddress (cs : List Char) : Bool :=
  let parts := domainParts cs
  match parts.mapM readNumber with
  | some numbers =>
    numbers.length ≤ 4 && numbers.dropLast.all (· < 256) &&
      (numbers.getLast?.any fun n => n < twoTo (8 * (5 - numbers.length)))
  | none => false

end ShopQuery.Ipv4
