import ShopQuery.Text.Utf8

/-!
# Percent escapes

An octet may be spelled `%` and two hexadecimal digits. `escape` spells so the octets that a
predicate does not keep; `unescape` undoes it, and leaves a `%` alone that no two digits follow.
-/

namespace ShopQuery.Percent

/-- An upper-case hexadecimal digit. -/
def hexDigit (n : Nat) : Char :=
  if n < 10 then Char.ofNat (48 + n) else Char.ofNat (55 + n)

/-- The value of an octet that spells a hexadecimal digit of either case. -/
def hexValue? (b : UInt8) : Option UInt8 :=
  if 48 ≤ b && b ≤ 57 then some (b - 48)
  else if 65 ≤ b && b ≤ 70 then some (b - 55)
  else if 97 ≤ b && b ≤ 102 then some (b - 87)
  else none

def isPrintable (b : UInt8) : Bool := 0x20 ≤ b && b < 0x7F

/-- One octet: itself where `keep` holds, else `%` and two digits. -/
def escapeOctet (keep : UInt8 → Bool) (b : UInt8) : List Char :=
  if keep b then [Char.ofNat b.toNat]
  else ['%', hexDigit (b.toNat / 16), hexDigit (b.toNat % 16)]

/-- A character, octet by octet. -/
def escapeChar (keep : UInt8 → Bool) (c : Char) : List Char :=
  (String.utf8EncodeChar c).flatMap (escapeOctet keep)

/-- A text, octet by octet. -/
def escape (keep : UInt8 → Bool) (cs : List Char) : List Char :=
  cs.flatMap (escapeChar keep)

/-- The octets that escapes and plain octets stand for. -/
def unescape : List UInt8 → List UInt8
  | [] => []
  | b :: rest =>
    if b = 37 then
      match rest with
      | hi :: lo :: rest' =>
        match hexValue? hi, hexValue? lo with
        | some h, some l => (h * 16 + l) :: unescape rest'
        | _, _ => b :: unescape (hi :: lo :: rest')
      | [lone] => [b, lone]
      | [] => [b]
    else b :: unescape rest

/-- The text that an escaped text stands for, if its octets spell one. -/
def decode (cs : List Char) : Except Utf8.Fault String :=
  Utf8.decode (unescape (Utf8.encodeChars cs))

end ShopQuery.Percent
