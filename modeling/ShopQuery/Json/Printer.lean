import ShopQuery.Json.Basic
import ShopQuery.Number.Shortest

/-!
# Printing JSON

The compact form of a value: no space anywhere, members in their order, characters outside ASCII
as they are.
-/

namespace ShopQuery.Json

/-! ## 1. Strings -/

/-- A lower-case hexadecimal digit. -/
def hexDigit (n : Nat) : Char :=
  if n < 10 then Char.ofNat (48 + n) else Char.ofNat (87 + n)

/-- A character inside quotes. Quotes, backslashes and the controls below U+0020 are escaped, five
of the controls by a letter. -/
def escape (c : Char) : List Char :=
  match c with
  | '"' => ['\\', '"']
  | '\\' => ['\\', '\\']
  | '\n' => ['\\', 'n']
  | '\r' => ['\\', 'r']
  | '\t' => ['\\', 't']
  | '\x08' => ['\\', 'b']
  | '\x0c' => ['\\', 'f']
  | c =>
    if c.toNat < 0x20 then
      ['\\', 'u', '0', '0', hexDigit (c.toNat / 16), hexDigit (c.toNat % 16)]
    else [c]

def quote (s : String) : List Char := '"' :: (s.toList.flatMap escape ++ ['"'])

/-! ## 2. Numbers -/

/-- Floating-point values are positional from `1e-5` up to below `1e16`. -/
def floatLayout : NumberLayout := ⟨-5, 15⟩

def writeInt : Int → List Char
  | .ofNat n => Nat.toDigits 10 n
  | .negSucc n => '-' :: Nat.toDigits 10 (n + 1)

/-- A number; zero keeps its sign only as a floating-point value. -/
def Number.write : Number → List Char
  | .integer n => writeInt n
  | .float x =>
    let digits := floatLayout.write x.magnitude.shortest
    if x.negative then '-' :: digits else digits

/-! ## 3. Values -/

mutual

/-- The compact form of a value. -/
def write : Json → List Char
  | .null => ['n', 'u', 'l', 'l']
  | .bool true => ['t', 'r', 'u', 'e']
  | .bool false => ['f', 'a', 'l', 's', 'e']
  | .number n => n.write
  | .string s => quote s
  | .array items => '[' :: (writeItems items ++ [']'])
  | .object members => '{' :: (writeMembers members ++ ['}'])

/-- Items with commas between them. -/
def writeItems : List Json → List Char
  | [] => []
  | item :: rest => write item ++ writeMoreItems rest

def writeMoreItems : List Json → List Char
  | [] => []
  | item :: rest => ',' :: (write item ++ writeMoreItems rest)

/-- Members with commas between them. -/
def writeMembers : List (String × Json) → List Char
  | [] => []
  | (key, value) :: rest => quote key ++ ':' :: (write value ++ writeMoreMembers rest)

def writeMoreMembers : List (String × Json) → List Char
  | [] => []
  | (key, value) :: rest => ',' :: (quote key ++ ':' :: (write value ++ writeMoreMembers rest))

end

def print (value : Json) : String := String.ofList (write value)

end ShopQuery.Json
