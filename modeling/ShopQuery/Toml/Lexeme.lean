import ShopQuery.Calendar.Date
import ShopQuery.Number.Bigint
import ShopQuery.Number.Binary64
import ShopQuery.Number.Digits
import ShopQuery.Number.Power

/-!
# The words of TOML

Keys, strings, numbers and times, read from the beginning of a text.

A reader answers what it read and the text after it, or, as its fault, the text that was left where
it could not go on.
-/

namespace ShopQuery.Toml

abbrev Reading (α : Type) := Except (List Char) (α × List Char)

/-! ## 1. Blanks -/

/-- A space or tabulator. -/
def isBlank (c : Char) : Bool := c = ' ' || c = '\t'

def skipBlanks (cs : List Char) : List Char := cs.dropWhile isBlank

/-- A character that a comment or a literal text may hold. -/
def isPlain (c : Char) : Bool := c = '\t' || (0x20 ≤ c.toNat && c.toNat ≤ 0x7E) || 0x80 ≤ c.toNat

/-- The text after a line end, if it begins with one. -/
def lineEnd? : List Char → Option (List Char)
  | '\n' :: rest => some rest
  | '\r' :: '\n' :: rest => some rest
  | _ => none

/-- The text after a comment, if it begins with one. -/
def skipComment (cs : List Char) : List Char :=
  match cs with
  | '#' :: rest => rest.dropWhile isPlain
  | _ => cs

/-- The text after blanks, comments and line ends. A comment ends its line. -/
def skipLines : (fuel : Nat) → List Char → List Char
  | 0, cs => cs
  | fuel + 1, cs =>
    let after := skipComment (skipBlanks cs)
    match lineEnd? after with
    | some rest => skipLines fuel rest
    | none => skipBlanks cs

/-! ## 2. Strings -/

/-- The character with a hexadecimal number of a fixed length. -/
def hexChar? (ds : List Char) (length : Nat) : Option Char :=
  let n := numberInBase 16 ds
  if ds.length = length ∧ ds.all isHexDigit ∧ (n < 0xD800 ∨ (0xDFFF < n ∧ n < 0x110000)) then
    some (Char.ofNat n)
  else none

def readEscape : List Char → Reading Char
  | 'b' :: rest => .ok ('\x08', rest)
  | 't' :: rest => .ok ('\t', rest)
  | 'n' :: rest => .ok ('\n', rest)
  | 'f' :: rest => .ok ('\x0c', rest)
  | 'r' :: rest => .ok ('\r', rest)
  | '"' :: rest => .ok ('"', rest)
  | '\\' :: rest => .ok ('\\', rest)
  | 'u' :: rest =>
    match hexChar? (rest.take 4) 4 with
    | some c => .ok (c, rest.drop 4)
    | none => .error rest
  | 'U' :: rest =>
    match hexChar? (rest.take 8) 8 with
    | some c => .ok (c, rest.drop 8)
    | none => .error rest
  | rest => .error rest

/-- Puts a character in front of a text that was read. -/
def consChar (c : Char) : Reading (List Char) → Reading (List Char) :=
  Except.map fun r => (c :: r.1, r.2)

def readBasic : (fuel : Nat) → List Char → Reading (List Char)
  | 0, cs => .error cs
  | _ + 1, [] => .error []
  | _ + 1, '"' :: rest => .ok ([], rest)
  | fuel + 1, '\\' :: rest =>
    match readEscape rest with
    | .error left => .error left
    | .ok (c, after) => consChar c (readBasic fuel after)
  | fuel + 1, c :: rest =>
    if isPlain c then consChar c (readBasic fuel rest) else .error (c :: rest)

def readLiteral (cs : List Char) : Reading (List Char) :=
  let content := cs.takeWhile fun c => isPlain c && c != '\''
  match cs.drop content.length with
  | '\'' :: rest => .ok (content, rest)
  | rest => .error rest

/-- The text without the line end it begins with. -/
def skipFirstLineEnd (cs : List Char) : List Char := (lineEnd? cs).getD cs

/-- The end of a string of several lines: three quotes, and up to two more that belong to it. -/
def closing? (quote : Char) (cs : List Char) : Option (List Char × List Char) :=
  let count := min (cs.takeWhile (· == quote)).length 5
  if 3 ≤ count then some (List.replicate (count - 3) quote, cs.drop count) else none

/-- The text after the blanks and line ends it begins with. -/
def skipBlankLines : List Char → List Char
  | [] => []
  | '\r' :: '\n' :: rest => skipBlankLines rest
  | c :: rest => if isBlank c || c = '\n' then skipBlankLines rest else c :: rest

/-- Reads a string of several lines after its quotes and the line end behind them. A basic one has
escapes; a backslash at the end of a line joins it with the next line that is not blank. -/
def readLines (quote : Char) (escapes : Bool) : (fuel : Nat) → List Char → Reading (List Char)
  | 0, cs => .error cs
  | _ + 1, [] => .error []
  | fuel + 1, c :: rest =>
    match closing? quote (c :: rest) with
    | some closed => .ok closed
    | none =>
      match lineEnd? (c :: rest) with
      | some after => consChar '\n' (readLines quote escapes fuel after)
      | none =>
        if escapes && c = '\\' then
          match lineEnd? (skipBlanks rest) with
          | some after =>
            readLines quote escapes fuel (skipBlankLines after)
          | none =>
            match readEscape rest with
            | .error left => .error left
            | .ok (e, after) => consChar e (readLines quote escapes fuel after)
        else if isPlain c then consChar c (readLines quote escapes fuel rest)
        else .error (c :: rest)

def readString (cs : List Char) : Reading String :=
  let fuel := cs.length + 1
  let chars :=
    match cs with
    | '"' :: '"' :: '"' :: rest => readLines '"' true fuel (skipFirstLineEnd rest)
    | '\'' :: '\'' :: '\'' :: rest => readLines '\'' false fuel (skipFirstLineEnd rest)
    | '"' :: rest => readBasic fuel rest
    | '\'' :: rest => readLiteral rest
    | rest => .error rest
  chars.map fun r => (String.ofList r.1, r.2)

/-! ## 3. Keys -/

/-- A character of a key without quotes. -/
def isKeyChar (c : Char) : Bool :=
  c.isDigit || ('a' ≤ c && c ≤ 'z') || ('A' ≤ c && c ≤ 'Z') || c = '_' || c = '-'

def readKeyPart (cs : List Char) : Reading String :=
  match cs with
  | '"' :: rest => (readBasic (rest.length + 1) rest).map fun r => (String.ofList r.1, r.2)
  | '\'' :: rest => (readLiteral rest).map fun r => (String.ofList r.1, r.2)
  | _ =>
    let key := cs.takeWhile isKeyChar
    if key.isEmpty then .error cs else .ok (String.ofList key, cs.drop key.length)

/-- Reads a key of one or more parts with dots between them, and the blanks around. -/
def readKey : (parts : Nat) → List Char → Reading (List String)
  | 0, cs => .error cs
  | parts + 1, cs =>
    match readKeyPart (skipBlanks cs) with
    | .error left => .error left
    | .ok (part, rest) =>
      match skipBlanks rest with
      | '.' :: more => (readKey parts more).map fun r => (part :: r.1, r.2)
      | more => .ok ([part], more)

def maxKeyParts : Nat := 79

/-! ## 4. Numbers -/

/-- Digits with single underscores between them: the digits, and the text after them. -/
def digitsOf (isDigit : Char → Bool) : List Char → Option (List Char × List Char)
  | [] => none
  | c :: '_' :: rest =>
    if isDigit c then
      match digitsOf isDigit rest with
      | some (ds, after) => some (c :: ds, after)
      | none => some ([c], '_' :: rest)
    else none
  | c :: rest =>
    if isDigit c then
      match digitsOf isDigit rest with
      | some (ds, after) => some (c :: ds, after)
      | none => some ([c], rest)
    else none

/-- The sign in front of a number, and the text after it. -/
def signOf : List Char → Bool × List Char
  | '-' :: rest => (true, rest)
  | '+' :: rest => (false, rest)
  | rest => (false, rest)

/-- Decimal digits, of which the first is no zero unless it is the only one. -/
def wholeDigits (cs : List Char) : Option (List Char × List Char) :=
  match cs with
  | '0' :: rest => some (['0'], rest)
  | _ => digitsOf Char.isDigit cs

/-- An integer with the text after it, if it fits 64 bits. -/
def fitting (n : Int) (rest : List Char) : Option (Int × List Char) :=
  if (int64OfInt? n).isSome then some (n, rest) else none

/-- Reads an integer: decimal with a sign, or hexadecimal, octal or binary without. -/
def integer? (cs : List Char) : Option (Int × List Char) :=
  match cs with
  | '0' :: 'x' :: rest => do
    let (ds, after) ← digitsOf isHexDigit rest
    fitting (numberInBase 16 ds) after
  | '0' :: 'o' :: rest => do
    let (ds, after) ← digitsOf (fun d => '0' ≤ d && d ≤ '7') rest
    fitting (numberInBase 8 ds) after
  | '0' :: 'b' :: rest => do
    let (ds, after) ← digitsOf (fun d => d = '0' || d = '1') rest
    fitting (numberInBase 2 ds) after
  | _ => do
    let (negative, rest) := signOf cs
    let (ds, after) ← wholeDigits rest
    fitting (if negative then -decimalNumber ds else decimalNumber ds) after

/-- The exponent at the beginning of a text, if there is one: whether it is negative, its digits,
and the text after it. -/
def exponentOf (cs : List Char) : Option (Bool × List Char × List Char) :=
  match cs with
  | c :: rest =>
    if c = 'e' || c = 'E' then do
      let (negative, rest) := signOf rest
      let (ds, after) ← digitsOf Char.isDigit rest
      some (negative, ds, after)
    else none
  | [] => none

/-- Whether a positive decimal number is beyond all floating-point values. Numbers of more than 400
digits in front of the point are, whatever the digits. -/
def exceedsFloats (digits : List Char) (exponent : Int) : Bool :=
  let ds := digits.dropWhile (· == '0')
  let top : Int := ds.length + exponent
  if ds.isEmpty || top < 0 then false
  else if 400 < top then true
  else
    (Magnitude.nearest (decimalNumber ds * tenTo exponent.toNat) (tenTo (-exponent).toNat)).isNone

/-- Reads a floating-point number: a whole number with a fraction, an exponent or both, or one of
the words for infinity and for no number. Positive numbers beyond all values are refused. -/
def float? (cs : List Char) : Option (List Char) :=
  let (negative, rest) := signOf cs
  match rest with
  | 'i' :: 'n' :: 'f' :: after => some after
  | 'n' :: 'a' :: 'n' :: after => some after
  | _ => do
    let (whole, rest) ← wholeDigits rest
    let (fraction, rest) :=
      match rest with
      | '.' :: rest =>
        match digitsOf Char.isDigit rest with
        | some (ds, after) => (some ds, after)
        | none => (none, '.' :: rest)
      | _ => (none, rest)
    let exponent := exponentOf rest
    if fraction.isNone && exponent.isNone then none
    let after := match exponent with
      | some (_, _, after) => after
      | none => rest
    let scale : Int := match exponent with
      | some (true, ds, _) => -(decimalNumber ds : Int)
      | some (false, ds, _) => decimalNumber ds
      | none => 0
    let ds := fraction.getD []
    if !negative && exceedsFloats (whole ++ ds) (scale - ds.length) then none else some after

/-! ## 5. Times -/

/-- A number of exactly two digits in a range. -/
def twoDigits (least greatest : Nat) : List Char → Option (Nat × List Char)
  | a :: b :: rest =>
    if a.isDigit && b.isDigit then
      let n := decimalNumber [a, b]
      if least ≤ n ∧ n ≤ greatest then some (n, rest) else none
    else none
  | _ => none

/-- The text after one character, if it begins with that. -/
def after? (c : Char) : List Char → Option (List Char)
  | d :: rest => if d = c then some rest else none
  | [] => none

def date? (cs : List Char) : Option (List Char) := do
  let year := cs.take 4
  if year.length != 4 || !year.all Char.isDigit then none
  let rest ← after? '-' (cs.drop 4)
  let (month, rest) ← twoDigits 1 12 rest
  let rest ← after? '-' rest
  let (_, rest) ← twoDigits 1 (daysInMonth (decimalNumber year) month) rest
  some rest

/-- Reads a time of the day, with a fraction of a second or without. -/
def time? (cs : List Char) : Option (List Char) := do
  let (_, rest) ← twoDigits 0 23 cs
  let rest ← after? ':' rest
  let (_, rest) ← twoDigits 0 59 rest
  let rest ← after? ':' rest
  let (_, rest) ← twoDigits 0 60 rest
  match rest with
  | '.' :: d :: more => if d.isDigit then some (more.dropWhile Char.isDigit) else some rest
  | _ => some rest

/-- The text after the distance from universal time, if it begins with one. -/
def skipOffset (cs : List Char) : List Char :=
  match cs with
  | 'Z' :: rest => rest
  | 'z' :: rest => rest
  | c :: rest =>
    if c = '+' || c = '-' then
      (do
        let (_, rest) ← twoDigits 0 23 rest
        let rest ← after? ':' rest
        let (_, rest) ← twoDigits 0 59 rest
        some rest).getD cs
    else cs
  | [] => []

/-- Reads a date, a time, or both with a `T` or a space between them. -/
def moment? (cs : List Char) : Option (List Char) :=
  match date? cs with
  | some rest =>
    match rest with
    | c :: more =>
      if c = 'T' || c = 't' || c = ' ' then
        match time? more with
        | some after => some (skipOffset after)
        | none => some rest
      else some rest
    | [] => some []
  | none => time? cs

end ShopQuery.Toml
