import ShopQuery.Number.Digits
import ShopQuery.Pattern.Support
import ShopQuery.Text.Blank
import ShopQuery.Text.Octets
import ShopQuery.Text.Word

/-!
# Log filters

Which log lines are let through. A filter is a list of directives with commas between them:

    target[span{field=value}]=level

Target, span and level may be missing, and a directive that names a level alone is for all targets.
The value of a field is a number, or a pattern for the values that it matches. A filter that cannot
be read counts as `warn`.

Blanks around a directive do not take part when its parts are told apart. But the parts are cut from
the text with its blanks, at the octet positions that they have without them. So blanks in front
shift what is cut, and it may be that a cut would go through a character.

What is computed here is the most verbose level that a filter lets through anywhere.
-/

namespace ShopQuery

/-! ## 1. Levels -/

inductive LogLevel where
  | off
  | error
  | warn
  | info
  | debug
  | trace
deriving DecidableEq, Repr

namespace LogLevel

def name : LogLevel → String
  | .off => "off"
  | .error => "error"
  | .warn => "warn"
  | .info => "info"
  | .debug => "debug"
  | .trace => "trace"

/-- All levels; a level stands at the position of its number. -/
def all : List LogLevel := [.off, .error, .warn, .info, .debug, .trace]

def number : LogLevel → Nat
  | .off => 0
  | .error => 1
  | .warn => 2
  | .info => 3
  | .debug => 4
  | .trace => 5

/-- The more verbose of two levels. -/
def max (a b : LogLevel) : LogLevel := if a.number < b.number then b else a

/-- The level of a number, which may have a plus sign. -/
def ofNumber? (cs : List Char) : Option LogLevel :=
  let digits :=
    match cs with
    | '+' :: rest => rest
    | cs => cs
  if !digits.isEmpty && digits.all Char.isDigit then
    all[decimalNumber digits]?
  else none

/-- The level that a name, in letters of either case, or a number stands for. -/
def read? (cs : List Char) : Option LogLevel :=
  (ofNumber? cs).or (all.find? fun level => level.name.toList == cs.map Char.toLower)

end LogLevel

/-! ## 2. Values -/

namespace LogFilter

/-- A text without a sign in front. -/
def dropSign : List Char → List Char
  | '+' :: rest | '-' :: rest => rest
  | cs => cs

/-- An exponent: nothing, or a number after an `e`. -/
def isExponent : List Char → Bool
  | [] => true
  | 'e' :: rest | 'E' :: rest => !(dropSign rest).isEmpty && (dropSign rest).all Char.isDigit
  | _ => false

/-- A number, which may have a sign, a fraction and an exponent, be infinite or none at all. -/
def isNumber (cs : List Char) : Bool :=
  let text := dropSign cs
  let whole := text.takeWhile Char.isDigit
  let rest := text.dropWhile Char.isDigit
  let (fraction, rest) :=
    match rest with
    | '.' :: rest => (rest.takeWhile Char.isDigit, rest.dropWhile Char.isDigit)
    | rest => ([], rest)
  (!(whole.isEmpty && fraction.isEmpty) && isExponent rest) ||
    ["inf", "infinity", "nan"].contains (String.ofList (text.map Char.toLower))

/-- Whether a text can be the value of a field. -/
def isValue (cs : List Char) : Bool := isNumber cs || Pattern.isUsable cs

/-- The value in the text of a field, if there is one: what stands between its first two equals
signs. -/
def valueOf (field : List Char) : Option (List Char) :=
  match field.dropWhile (· != '=') with
  | [] => none
  | _ :: rest => some (rest.takeWhile (· != '='))

/-! ## 3. Directives -/

inductive Fault where
  | unreadable
  /-- A part would have to be cut inside a character. -/
  | splitsCharacter
deriving DecidableEq, Repr

/-- The part of a text between two octet positions. -/
def cut (text : List Char) (start stop : Nat) : Except Fault (List Char) :=
  match sliceOctets? start stop text with
  | some part => .ok part
  | none => .error .splitsCharacter

/-- The level in a directive after its equals sign: every level if nothing stands there. -/
def levelPart (text : List Char) (start : Nat) : Except Fault LogLevel := do
  match ← cut text start (octetLength text) with
  | [] => return .trace
  | level =>
    match LogLevel.read? level with
    | some level => return level
    | none => throw .unreadable

/-- The level of a directive from the end of its span on. -/
def afterSpan (text : List Char) (start : Nat) : List Char → Except Fault LogLevel
  | [] => .ok .trace
  | '=' :: _ => levelPart text (start + 1)
  | _ => .error .unreadable

/-- The level of a directive from the fields of its span on. A field with a value lets everything
through, whatever the level. -/
def afterBrace (text : List Char) (start : Nat) (cs : List Char) : Except Fault LogLevel := do
  match cs.span (· != '\x7d') with
  | (inner, _ :: rest) =>
    let stop := start + octetLength inner
    let field ← cut text start stop
    if field.isEmpty then throw .unreadable
    if !(valueOf field).all isValue then throw .unreadable
    match rest with
    | ']' :: rest =>
      let level ← afterSpan text (stop + 2) rest
      return if (valueOf field).isSome then .trace else level
    | _ => throw .unreadable
  | _ => throw .unreadable

/-- The level of a directive from its span on. -/
def afterBracket (text : List Char) (start : Nat) (cs : List Char) : Except Fault LogLevel := do
  match cs.span fun c => c != ']' && c != '\x7b' with
  | (name, c :: rest) =>
    let stop := start + octetLength name
    let _ ← cut text start stop
    if c = ']' then afterSpan text (stop + 1) rest else afterBrace text (stop + 1) rest
  | _ => throw .unreadable

/-- A character that a target, or a level, begins with. -/
def beginsTarget (c : Char) : Bool := isWordChar c || c = '-' || c = ':' || c = '_'

/-- The level that a directive lets through, if it can be read. The directive may have blanks around
it. -/
def directive (text : List Char) : Except Fault LogLevel := do
  match (dropBlanks (dropBlanks text).reverse).reverse with
  | [] => throw .unreadable
  | '[' :: rest => afterBracket text 1 rest
  | c :: rest =>
    if !beginsTarget c then throw .unreadable
    match (c :: rest).span fun c => c != '=' && c != '[' with
    | (_, []) => return (LogLevel.read? text).getD .trace
    | (target, c :: rest) =>
      let stop := octetLength target
      let _ ← cut text 0 stop
      if c = '=' then levelPart text (stop + 1) else afterBracket text (stop + 1) rest

/-! ## 4. Filters -/

def variableName : String := "RUST_LOG"

/-- The level that a filter lets through at most. One that says nothing lets nothing through. -/
def read (text : String) : Except Fault LogLevel := do
  let parts := (text.toList.splitOn ',').filter fun part => !part.isEmpty
  let levels ← parts.mapM directive
  return levels.foldl LogLevel.max .off

/-- The level that is let through at most, if the filter is set or not; none if reading it would
split a character. -/
def maxLevel? (filter : Option String) : Option LogLevel :=
  match filter.map read with
  | some (.ok level) => some level
  | some (.error .splitsCharacter) => none
  | some (.error .unreadable) | none => some .warn

end LogFilter

end ShopQuery
