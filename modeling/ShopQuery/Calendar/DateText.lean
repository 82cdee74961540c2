import ShopQuery.Calendar.Date
import ShopQuery.Number.Digits
import ShopQuery.Number.Power
import ShopQuery.Text.Blank

/-!
# Reading dates

A date is written as a year, a month and a day with dashes between them.

## What is accepted

White space may stand in front of each number. A year has up to four digits, or any number of
digits after a sign; months and days have up to two digits and no sign. Nothing may follow. A month
or day beyond those of any calendar is refused where it stands; whether the calendar has the date
is asked at the end.
-/

namespace ShopQuery

inductive DateFault where
  | outOfRange
  | invalid
  | tooShort
  | tooLong
deriving DecidableEq, Repr

def DateFault.message : DateFault → String
  | .outOfRange => "input is out of range"
  | .invalid => "input contains invalid characters"
  | .tooShort => "premature end of input"
  | .tooLong => "trailing input"

namespace DateText

/-- The first digits of a text, at most as many as a limit says, if there is one. -/
def leadingDigits (limit : Option Nat) (cs : List Char) : List Char :=
  let ds := cs.takeWhile Char.isDigit
  match limit with
  | none => ds
  | some n => ds.take n

/-- Reads a number of at least one digit. -/
def readNumber (limit : Option Nat) (cs : List Char) : Except DateFault (Nat × List Char) :=
  match cs with
  | [] => .error .tooShort
  | c :: _ =>
    if c.isDigit then
      let ds := leadingDigits limit cs
      let n := decimalNumber ds
      if n < twoTo 63 then .ok (n, cs.drop ds.length) else .error .outOfRange
    else .error .invalid

def readYear (cs : List Char) : Except DateFault (Int × List Char) := do
  let (year, rest) ←
    match dropBlanks cs with
    | '-' :: rest => (readNumber none rest).map fun r => (-(r.1 : Int), r.2)
    | '+' :: rest => (readNumber none rest).map fun r => ((r.1 : Int), r.2)
    | rest => (readNumber (some 4) rest).map fun r => ((r.1 : Int), r.2)
  if -(twoTo 31 : Int) ≤ year ∧ year < twoTo 31 then return (year, rest) else throw .outOfRange

/-- Reads a month or a day, from one up to a greatest value. -/
def readPart (greatest : Nat) (cs : List Char) : Except DateFault (Nat × List Char) := do
  let (n, rest) ← readNumber (some 2) (dropBlanks cs)
  if 1 ≤ n ∧ n ≤ greatest then return (n, rest) else throw .outOfRange

def readDash : List Char → Except DateFault (List Char)
  | [] => .error .tooShort
  | '-' :: rest => .ok rest
  | _ => .error .invalid

/-- Reads a date and nothing else. -/
def readAll (cs : List Char) : Except DateFault Date := do
  let (year, cs) ← readYear cs
  let cs ← readDash cs
  let (month, cs) ← readPart 12 cs
  let cs ← readDash cs
  let (day, cs) ← readPart 31 cs
  if !cs.isEmpty then throw .tooLong
  match Date.ofCivil? year month day with
  | some d => return d
  | none => throw .outOfRange

end DateText

def Date.read (text : String) : Except DateFault Date := DateText.readAll text.toList

end ShopQuery
