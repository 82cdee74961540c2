import ShopQuery.Number.Digits
import ShopQuery.Number.Power

/-!
# Punycode

Names of letters of all scripts, spelled in ASCII. The letters of ASCII come first, as they are,
with a hyphen after them; then numbers tell where the other characters are inserted, in ascending
order.

A number is written in digits of base 36, the least first. What digit ends a number, and how much a
digit is worth, depends on a bias that follows the size of the numbers before.
-/

namespace ShopQuery.DomainName.Punycode

/-! ## 1. Digits -/

def base : Nat := 36

/-- Numbers stay below this bound. -/
def bound : Nat := twoTo 32

/-- The value of a digit: letters come before figures. -/
def digit? (c : Char) : Option Nat :=
  if 'a' ≤ c && c ≤ 'z' then some (c.toNat - 97)
  else if c.isDigit then some (digitValue c + 26)
  else none

/-- The least digit after which a number goes on, at a position that is counted in steps of the
base. -/
def threshold (position bias : Nat) : Nat :=
  if position ≤ bias then 1 else if bias + 26 ≤ position then 26 else position - bias

/-- Divides a number by 35 until it is at most 455, and counts in steps of the base how often. -/
def shrink (n count : Nat) : Nat × Nat :=
  if 455 < n then shrink (n / 35) (count + base) else (n, count)
termination_by n
decreasing_by exact Nat.div_lt_self (by omega) (by omega)

/-- The bias after a number, when there are `length` characters. -/
def adapt (number length : Nat) (first : Bool) : Nat :=
  let halved := if first then number / 700 else number / 2
  let (n, count) := shrink (halved + halved / length) 0
  count + base * n / (n + 38)

/-- Below the bound. -/
def bounded? (n : Nat) : Option Nat := if n < bound then some n else none

/-- Adds a number in digits to another, and answers what follows it. -/
def readNumber (bias : Nat) (position weight sum : Nat) : List Char → Option (Nat × List Char)
  | [] => none
  | c :: rest => do
    let d ← digit? c
    let sum ← bounded? (sum + (← bounded? (d * weight)))
    let least := threshold position bias
    if d < least then return (sum, rest)
    else readNumber bias (position + base) (← bounded? (weight * (base - least))) sum rest

/-- A number takes at least one digit. -/
theorem readNumber_length {bias position weight sum : Nat} {cs : List Char}
    {r : Nat × List Char} (h : readNumber bias position weight sum cs = some r) :
    r.2.length < cs.length := by
  induction cs generalizing position weight sum with
  | nil => simp [readNumber] at h
  | cons c rest ih =>
    simp only [readNumber, Option.bind_eq_bind, Option.bind_eq_some_iff] at h
    obtain ⟨d, -, product, -, total, -, h⟩ := h
    split at h
    · cases h
      simp
    · obtain ⟨next, -, h⟩ := Option.bind_eq_some_iff.1 h
      have := ih h
      simp
      omega

/-! ## 2. Names -/

/-- Inserts characters into a text. The next one has at least the number `code`, and stands at
`place` or after it. -/
def insertAll (bias code place : Nat) (text : List Char) (cs : List Char) : Option (List Char) :=
  match _h : readNumber bias base 1 place cs with
  | none => if cs.isEmpty then some text else none
  | some (sum, rest) =>
    let length := text.length + 1
    let code := code + sum / length
    if code.isValidChar then
      insertAll (adapt (sum - place) length (place = 0)) code (sum % length + 1)
        (text.insertIdx (sum % length) (Char.ofNat code)) rest
    else none
termination_by cs.length
decreasing_by exact readNumber_length _h

/-- The letters of ASCII in a spelling, and the numbers after them. A hyphen that nothing stands in
front of separates nothing. -/
def splitSpelling (cs : List Char) : List Char × List Char :=
  match cs.reverse.span (· != '-') with
  | (numbers, _ :: c :: letters) => ((c :: letters).reverse, numbers.reverse)
  | _ => ([], cs)

def decode? (cs : List Char) : Option (List Char) :=
  let (letters, numbers) := splitSpelling cs
  insertAll 72 0x80 0 letters numbers

/-- Letters of other scripts stand between those of ASCII. -/
example : decode? "bcher-kva".toList = some "bücher".toList := by decide +kernel

end ShopQuery.DomainName.Punycode
