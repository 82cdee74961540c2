import ShopQuery.Json.Basic
import ShopQuery.Json.Fault
import ShopQuery.Number.Digits
import ShopQuery.Number.Power

/-!
# Reading JSON numbers

A number without fraction and exponent is an integer as long as it fits 64 bits. Every other
number is a floating-point value, computed from its digits in two rounded steps.

## Floating-point values

The digits form an integer, the significand, until one more digit would carry it beyond 64 bits;
the digits after that only move the decimal exponent. The value is the significand, rounded to a
binary64 value, times or divided by a power of ten that is itself rounded. Quotients below the
range become zero; products above it are refused.
-/

namespace ShopQuery.Json

/-! ## 1. Digits -/

def maxSignificand : Nat := twoTo 64 - 1

/-- Appends digits to a significand for as long as it fits; answers it with the number of digits
that were left out. -/
def appendDigits (significand : Nat) : List Char → Nat × Nat
  | [] => (significand, 0)
  | d :: ds =>
    let next := significand * 10 + digitValue d
    if maxSignificand < next then (significand, ds.length + 1) else appendDigits next ds

/-! ## 2. Scaling -/

/-- A power of ten, rounded; up to `10 ^ 308`. -/
def powerOfTen (n : Nat) : Magnitude := (Magnitude.ofNat (tenTo n)).getD Magnitude.zero

/-- A magnitude times `10 ^ exponent`; none where it is out of range. Exponents below `-308` are
taken off in steps of 308. A significand is below `2 ^ 64`, so that it is zero after two steps. -/
def scale (x : Magnitude) (exponent : Int) : (steps : Nat) → Option Magnitude
  | 0 => some Magnitude.zero
  | steps + 1 =>
    if 0 ≤ exponent ∧ exponent ≤ 308 then x.mul (powerOfTen exponent.toNat)
    else if -308 ≤ exponent ∧ exponent < 0 then x.div (powerOfTen (-exponent).toNat)
    else if x.mantissa = 0 then some x
    else if 0 ≤ exponent then none
    else
      match x.div (powerOfTen 308) with
      | some y => scale y (exponent + 308) steps
      | none => none

/-- The magnitude of `significand * 10 ^ exponent`. -/
def magnitudeOf (significand : Nat) (exponent : Int) : Option Magnitude :=
  match Magnitude.ofNat significand with
  | some x => scale x exponent 4
  | none => none

/-- A floating-point number, or a stop behind it where it is out of range. -/
def finishFloat (negative : Bool) (significand : Nat) (exponent : Int) (rest : List Char) :
    Reading Number :=
  match magnitudeOf significand exponent with
  | some x => .ok (.float ⟨negative, x⟩, rest)
  | none => stopAt .numberOutOfRange rest

/-! ## 3. Parts of a number -/

def maxExponent : Nat := twoTo 31 - 1

/-- Reads the digits of an exponent, of which `value` are read already. Where they pass the
greatest exponent, a positive one is out of range and a negative one makes the number zero, unless
the significand is zero anyway. -/
def readExponentDigits (negative : Bool) (significand : Nat) (start : Int) (down : Bool)
    (value : Nat) : List Char → Reading Number
  | [] => finishFloat negative significand (if down then start - value else start + value) []
  | c :: rest =>
    if c.isDigit then
      let next := value * 10 + digitValue c
      if maxExponent < next then
        if significand != 0 && !down then stopAt .numberOutOfRange rest
        else .ok (.float ⟨negative, Magnitude.zero⟩, rest.dropWhile Char.isDigit)
      else readExponentDigits negative significand start down next rest
    else
      finishFloat negative significand (if down then start - value else start + value) (c :: rest)

/-- Reads what follows the letter of an exponent and its sign: at least one digit. -/
def readExponentValue (negative : Bool) (significand : Nat) (start : Int) (down : Bool) :
    List Char → Reading Number
  | [] => stopAt .endInValue []
  | c :: rest =>
    if c.isDigit then readExponentDigits negative significand start down (digitValue c) rest
    else stopPeeking .invalidNumber (c :: rest)

/-- Reads what follows the letter of an exponent. -/
def readExponent (negative : Bool) (significand : Nat) (start : Int) :
    List Char → Reading Number
  | '+' :: rest => readExponentValue negative significand start false rest
  | '-' :: rest => readExponentValue negative significand start true rest
  | rest => readExponentValue negative significand start false rest

/-- Ends a number that has a fraction or too many digits: with an exponent or without. -/
def readTail (negative : Bool) (significand : Nat) (exponent : Int) : List Char → Reading Number
  | 'e' :: rest => readExponent negative significand exponent rest
  | 'E' :: rest => readExponent negative significand exponent rest
  | rest => finishFloat negative significand exponent rest

/-- Reads what follows the decimal point: at least one digit. -/
def readFraction (negative : Bool) (significand : Nat) (exponent : Int) (cs : List Char) :
    Reading Number :=
  let digits := cs.takeWhile Char.isDigit
  let rest := cs.dropWhile Char.isDigit
  match digits, rest with
  | [], [] => stopAt .endInValue []
  | [], rest => stopPeeking .invalidNumber rest
  | digits, rest =>
    let (significand, dropped) := appendDigits significand digits
    readTail negative significand (exponent - (digits.length - dropped : Nat)) rest

/-! ## 4. Numbers -/

/-- The number that plain digits stand for. Minus zero, and a negative value that does not fit, are
floating-point values. -/
def ofPlain (negative : Bool) (significand : Nat) (rest : List Char) : Reading Number :=
  if negative then
    if significand = 0 || twoTo 63 < significand then finishFloat true significand 0 rest
    else .ok (.integer (-significand), rest)
  else .ok (.integer significand, rest)

/-- Reads a number after its sign. -/
def readUnsigned (negative : Bool) (cs : List Char) : Reading Number :=
  match cs with
  | [] => stopAt .endInValue []
  | c :: rest =>
    if !c.isDigit then stopPeeking .invalidNumber (c :: rest)
    else if c = '0' && (rest.head?.any Char.isDigit) then stopPeeking .invalidNumber rest
    else
      let (significand, dropped) := appendDigits 0 (cs.takeWhile Char.isDigit)
      match cs.dropWhile Char.isDigit with
      | '.' :: rest => readFraction negative significand dropped rest
      | 'e' :: rest => readExponent negative significand dropped rest
      | 'E' :: rest => readExponent negative significand dropped rest
      | rest =>
        if dropped = 0 then ofPlain negative significand rest
        else finishFloat negative significand dropped rest

def readNumber : List Char → Reading Number
  | '-' :: rest => readUnsigned true rest
  | rest => readUnsigned false rest

end ShopQuery.Json
