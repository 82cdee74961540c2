import ShopQuery.Text.Utf8

/-!
# Faults of a JSON text

Why a text is no JSON, and where. A reader that stops keeps the characters it has not consumed;
the position is computed from them at the end. Lines count from one. A column is the number of
octets consumed since the last line end, and counts one more when the reader stopped in front of
an octet that it had looked at.
-/

namespace ShopQuery.Json

inductive Cause where
  | endInList
  | endInObject
  | endInString
  | endInValue
  | expectedColon
  | expectedListCommaOrEnd
  | expectedObjectCommaOrEnd
  | expectedIdent
  | expectedValue
  | invalidEscape
  | invalidNumber
  | numberOutOfRange
  | controlCharacter
  | keyMustBeString
  | loneSurrogate
  | trailingComma
  | trailingCharacters
  | endOfHexEscape
  | recursionLimit
deriving DecidableEq, Repr

def Cause.message : Cause → String
  | .endInList => "EOF while parsing a list"
  | .endInObject => "EOF while parsing an object"
  | .endInString => "EOF while parsing a string"
  | .endInValue => "EOF while parsing a value"
  | .expectedColon => "expected `:`"
  | .expectedListCommaOrEnd => "expected `,` or `]`"
  | .expectedObjectCommaOrEnd => "expected `,` or `\x7d`"
  | .expectedIdent => "expected ident"
  | .expectedValue => "expected value"
  | .invalidEscape => "invalid escape"
  | .invalidNumber => "invalid number"
  | .numberOutOfRange => "number out of range"
  | .controlCharacter => "control character (\\u0000-\\u001F) found while parsing a string"
  | .keyMustBeString => "key must be a string"
  | .loneSurrogate => "lone leading surrogate in hex escape"
  | .trailingComma => "trailing comma"
  | .trailingCharacters => "trailing characters"
  | .endOfHexEscape => "unexpected end of hex escape"
  | .recursionLimit => "recursion limit exceeded"

/-- Where a reader stopped: what it had not consumed, and how many octets of that it had looked
at. -/
structure Stop where
  cause : Cause
  rest : List Char
  ahead : Nat
deriving DecidableEq, Repr

/-- What a reader answers: a value and the characters after it. -/
abbrev Reading (α : Type) := Except Stop (α × List Char)

/-- Stops in front of what was not consumed. -/
def stopAt {α : Type} (cause : Cause) (rest : List Char) : Reading α :=
  .error ⟨cause, rest, 0⟩

/-- Stops behind the octet that was looked at last. -/
def stopPeeking {α : Type} (cause : Cause) (rest : List Char) : Reading α :=
  .error ⟨cause, rest, 1⟩

/-- A cause with its line and column. -/
structure Fault where
  cause : Cause
  line : Nat
  column : Nat
deriving DecidableEq, Repr

def Fault.message (f : Fault) : String :=
  s!"{f.cause.message} at line {f.line} column {f.column}"

/-- Places a stop in the text it belongs to. -/
def Stop.locate (text : List Char) (stop : Stop) : Fault :=
  let octets := Utf8.encodeChars text
  let left := (Utf8.encodeChars stop.rest).length
  let passed := octets.take (octets.length - left + stop.ahead)
  { cause := stop.cause
    line := 1 + passed.count 10
    column := (passed.reverse.takeWhile (· != 10)).length }

end ShopQuery.Json
