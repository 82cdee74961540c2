import ShopQuery.Json.Numeral

/-!
# Reading JSON

A reader of JSON texts that stops at the first fault.

## Results

`readTree` answers the value as it is written, with repeated keys; `read` collapses these. At most
127 arrays and objects may be open at a time.

## Termination

The readers of values, items and members count down a number that starts above twice the length
of the text. A value takes at least one character, and every reader that calls another without
taking a character is called by one that took one, so the number never reaches zero.

## What is left out

No key is reserved. A parser that hands on raw texts or numbers of any length may mark them by an
object with one key of its own, `$serde_json::private::RawValue` or
`$serde_json::private::Number`, and read such an object as what it marks. Here it is an object like
any other, so texts with these keys are outside of what this reader follows.
-/

namespace ShopQuery.Json

/-! ## 1. Spaces and words -/

/-- White space between the tokens of JSON. -/
def isSpace (c : Char) : Bool := c = ' ' || c = '\n' || c = '\t' || c = '\r'

/-- The text after the white space it begins with. -/
def skipSpace (cs : List Char) : List Char := cs.dropWhile isSpace

def readWord {α : Type} (value : α) : (letters cs : List Char) → Reading α
  | [], cs => .ok (value, cs)
  | _ :: _, [] => stopAt .endInValue []
  | l :: ls, c :: cs => if c = l then readWord value ls cs else stopPeeking .expectedIdent (c :: cs)

/-! ## 2. Strings -/

/-- The value of four hexadecimal digits. -/
def hexValue4? (a b c d : Char) : Option Nat := do
  let a ← hexValue? a
  let b ← hexValue? b
  let c ← hexValue? c
  let d ← hexValue? d
  return ((a * 16 + b) * 16 + c) * 16 + d

/-- Stops where four hexadecimal digits do not follow: behind four octets if there are as many. -/
def stopInHex {α : Type} (rest : List Char) : Reading α :=
  if 4 ≤ (Utf8.encodeChars (rest.take 4)).length then .error ⟨.invalidEscape, rest, 4⟩
  else stopAt .endInString []

/-- A character that one letter after a backslash stands for. -/
def simpleEscape? : Char → Option Char
  | '"' => some '"'
  | '\\' => some '\\'
  | '/' => some '/'
  | 'b' => some '\x08'
  | 'f' => some '\x0c'
  | 'n' => some '\n'
  | 'r' => some '\r'
  | 't' => some '\t'
  | _ => none

/-- The first half of a surrogate pair. -/
def isHighSurrogate (n : Nat) : Bool := 0xD800 ≤ n && n ≤ 0xDBFF

/-- The second half of a surrogate pair. -/
def isLowSurrogate (n : Nat) : Bool := 0xDC00 ≤ n && n ≤ 0xDFFF

/-- The character that a surrogate pair stands for. -/
def ofSurrogates (high low : Nat) : Char :=
  Char.ofNat (0x10000 + (high - 0xD800) * 0x400 + (low - 0xDC00))

/-- Puts a character in front of a string that was read. -/
def consChar (c : Char) : Reading (List Char) → Reading (List Char) :=
  Except.map fun r => (c :: r.1, r.2)

/-- Reads the characters of a string and its closing quote. -/
def readChars : List Char → Reading (List Char)
  | [] => stopAt .endInString []
  | '"' :: rest => .ok ([], rest)
  | '\\' :: rest =>
    match rest with
    | [] => stopAt .endInString []
    | 'u' :: hex =>
      match hex with
      | a :: b :: c :: d :: after =>
        match hexValue4? a b c d with
        | none => stopInHex hex
        | some n =>
          if isLowSurrogate n then stopAt .loneSurrogate after
          else if isHighSurrogate n then
            match after with
            | [] => stopAt .endInString []
            | '\\' :: pair =>
              match pair with
              | [] => stopAt .endInString []
              | 'u' :: hex₂ =>
                match hex₂ with
                | a₂ :: b₂ :: c₂ :: d₂ :: after₂ =>
                  match hexValue4? a₂ b₂ c₂ d₂ with
                  | none => stopInHex hex₂
                  | some n₂ =>
                    if isLowSurrogate n₂ then consChar (ofSurrogates n n₂) (readChars after₂)
                    else stopAt .loneSurrogate after₂
                | _ => stopInHex hex₂
              | other => stopPeeking .endOfHexEscape other
            | other => stopPeeking .endOfHexEscape other
          else consChar (Char.ofNat n) (readChars after)
      | _ => stopInHex hex
    | e :: after =>
      match simpleEscape? e with
      | some c => consChar c (readChars after)
      | none => stopPeeking .invalidEscape (e :: after)
  | c :: rest =>
    if c.toNat < 0x20 then stopAt .controlCharacter rest
    else consChar c (readChars rest)

def readString (cs : List Char) : Reading String :=
  (readChars cs).map fun r => (String.ofList r.1, r.2)

/-! ## 3. Values -/

mutual

/-- Reads a value in which `depth` more arrays and objects may be opened. -/
def readValue (fuel depth : Nat) (cs : List Char) : Reading Json :=
  match fuel with
  | 0 => stopPeeking .endInValue cs
  | fuel + 1 =>
    match skipSpace cs with
    | [] => stopAt .endInValue []
    | 'n' :: rest => readWord .null ['u', 'l', 'l'] rest
    | 't' :: rest => readWord (.bool true) ['r', 'u', 'e'] rest
    | 'f' :: rest => readWord (.bool false) ['a', 'l', 's', 'e'] rest
    | '"' :: rest => (readString rest).map fun r => (.string r.1, r.2)
    | '[' :: rest =>
      match depth with
      | 0 => stopPeeking .recursionLimit ('[' :: rest)
      | depth + 1 => (readItems fuel depth rest).map fun r => (.array r.1, r.2)
    | '\x7b' :: rest =>
      match depth with
      | 0 => stopPeeking .recursionLimit ('\x7b' :: rest)
      | depth + 1 => (readMembers fuel depth rest).map fun r => (.object r.1, r.2)
    | c :: rest =>
      if c = '-' || c.isDigit then (readNumber (c :: rest)).map fun r => (.number r.1, r.2)
      else stopPeeking .expectedValue (c :: rest)

/-- Reads the items of an array after its opening bracket. -/
def readItems (fuel depth : Nat) (cs : List Char) : Reading (List Json) :=
  match fuel with
  | 0 => stopPeeking .endInList cs
  | fuel + 1 =>
    match skipSpace cs with
    | [] => stopAt .endInList []
    | ']' :: rest => .ok ([], rest)
    | rest =>
      match readValue fuel depth rest with
      | .error stop => .error stop
      | .ok (item, rest) => (readMoreItems fuel depth rest).map fun r => (item :: r.1, r.2)

def readMoreItems (fuel depth : Nat) (cs : List Char) : Reading (List Json) :=
  match fuel with
  | 0 => stopPeeking .endInList cs
  | fuel + 1 =>
    match skipSpace cs with
    | [] => stopAt .endInList []
    | ']' :: rest => .ok ([], rest)
    | ',' :: rest =>
      match skipSpace rest with
      | [] => stopAt .endInValue []
      | ']' :: rest => stopPeeking .trailingComma (']' :: rest)
      | rest =>
        match readValue fuel depth rest with
        | .error stop => .error stop
        | .ok (item, rest) => (readMoreItems fuel depth rest).map fun r => (item :: r.1, r.2)
    | rest => stopPeeking .expectedListCommaOrEnd rest

/-- Reads the members of an object after its opening brace. -/
def readMembers (fuel depth : Nat) (cs : List Char) : Reading (List (String × Json)) :=
  match fuel with
  | 0 => stopPeeking .endInObject cs
  | fuel + 1 =>
    match skipSpace cs with
    | [] => stopAt .endInObject []
    | '\x7d' :: rest => .ok ([], rest)
    | '"' :: rest => readMember fuel depth rest
    | rest => stopPeeking .keyMustBeString rest

/-- Reads a member after the opening quote of its key, and the members after it. -/
def readMember (fuel depth : Nat) (cs : List Char) : Reading (List (String × Json)) :=
  match fuel with
  | 0 => stopPeeking .endInObject cs
  | fuel + 1 =>
    match readString cs with
    | .error stop => .error stop
    | .ok (key, rest) =>
      match skipSpace rest with
      | [] => stopAt .endInObject []
      | ':' :: rest =>
        match readValue fuel depth rest with
        | .error stop => .error stop
        | .ok (value, rest) =>
          (readMoreMembers fuel depth rest).map fun r => ((key, value) :: r.1, r.2)
      | rest => stopPeeking .expectedColon rest

def readMoreMembers (fuel depth : Nat) (cs : List Char) : Reading (List (String × Json)) :=
  match fuel with
  | 0 => stopPeeking .endInObject cs
  | fuel + 1 =>
    match skipSpace cs with
    | [] => stopAt .endInObject []
    | '\x7d' :: rest => .ok ([], rest)
    | ',' :: rest =>
      match skipSpace rest with
      | [] => stopAt .endInValue []
      | '"' :: rest => readMember fuel depth rest
      | '\x7d' :: rest => stopPeeking .trailingComma ('\x7d' :: rest)
      | rest => stopPeeking .keyMustBeString rest
    | rest => stopPeeking .expectedObjectCommaOrEnd rest

end

/-! ## 4. Texts -/

/-- The greatest number of arrays and objects open at a time. -/
def maxDepth : Nat := 127

/-- Reads a text that holds one value and nothing else. -/
def readAll (text : List Char) : Except Stop Json :=
  match readValue (2 * text.length + 3) maxDepth text with
  | .error stop => .error stop
  | .ok (value, rest) =>
    match skipSpace rest with
    | [] => .ok value
    | rest => .error ⟨.trailingCharacters, rest, 1⟩

/-- The value that a text spells, with its repeated keys. -/
def readTree (text : String) : Except Fault Json :=
  (readAll text.toList).mapError (Stop.locate text.toList)

def read (text : String) : Except Fault Json := (readTree text).map collapse

end ShopQuery.Json
