import ShopQuery.Number.Digits
import ShopQuery.Pattern.Basic
import ShopQuery.Text.Blank
import ShopQuery.Text.Word

/-!
# Reading patterns

The grammar of regular expressions.

    choice    a|b, where either side may be empty
    repeated  a* a+ a?, and a question mark after it for the shortest one
    group     (a) (?:a) (?i-s:a) (?P<name>a) (?<name>a)
    flags     (?i-s), up to the end of the group
    set       [a-z] [^a] [[:alpha:]_] [a-z&&[^aeiou]] [a--b] [a~~b]
    escape    \n \. \x41 \u00E9 \U0001F600 \d \s \w \A \z \b

Counted repetitions, properties of Unicode, references to groups and conditions on what stands
around are not part of it. In a spaced pattern, blanks and comments from a `#` to the end of the
line may stand between any two parts.
-/

namespace ShopQuery.Pattern

/-! ## 1. Blanks -/

/-- A text after the blanks and comments it begins with. -/
def skipSpaces : (inComment : Bool) → List Char → List Char
  | _, [] => []
  | true, c :: rest => skipSpaces (c != '\n') rest
  | false, c :: rest =>
    if isBlank c then skipSpaces false rest
    else if c = '#' then skipSpaces true rest
    else c :: rest

/-- A text from the next character on that counts. -/
def skip (spaced : Bool) (cs : List Char) : List Char :=
  if spaced then skipSpaces false cs else cs

/-- The next character that is no blank. A number sign is passed over as well. -/
def peek (spaced : Bool) (cs : List Char) : Option Char :=
  if spaced then
    match dropBlanks cs with
    | '#' :: rest => (dropBlanks rest).head?
    | rest => rest.head?
  else cs.head?

/-! ## 2. Escapes -/

/-- What an escape stands for. -/
inductive Escape where
  | literal (value : Literal)
  | shorthand (negated : Bool)
  | anchor
  | wordBoundary
deriving DecidableEq, Repr

/-- The number of hexadecimal digits after a letter. -/
def hexLength? : Char → Option Nat
  | 'x' => some 2
  | 'u' => some 4
  | 'U' => some 8
  | _ => none

/-- Reads some more hexadecimal digits of a number. -/
def readHex (spaced : Bool) : Nat → Nat → List Char → Option (Nat × List Char)
  | 0, value, cs => some (value, cs)
  | count + 1, value, cs =>
    match skip spaced cs with
    | [] => none
    | c :: rest => (hexValue? c).bind fun d => readHex spaced count (value * 16 + d) rest

def control? : Char → Option Char
  | 'a' => some '\x07'
  | 'f' => some '\x0C'
  | 't' => some '\t'
  | 'n' => some '\n'
  | 'r' => some '\r'
  | 'v' => some '\x0B'
  | _ => none

/-- What a character after a backslash stands for. Punctuation, blanks and controls of ASCII stand
for themselves; letters and digits without a meaning are refused. -/
def escapeOf? (c : Char) : Option Escape :=
  match c with
  | 'd' | 's' | 'w' => some (.shorthand false)
  | 'D' | 'S' | 'W' => some (.shorthand true)
  | 'A' | 'z' => some .anchor
  | 'b' | 'B' | '<' | '>' => some .wordBoundary
  | c =>
    match control? c with
    | some c => some (.literal ⟨c, false⟩)
    | none => if c.toNat < 0x80 && !c.isAlphanum then some (.literal ⟨c, false⟩) else none

def readEscape (spaced : Bool) : List Char → Option (Escape × List Char)
  | [] => none
  | c :: rest =>
    match hexLength? c with
    | none => (escapeOf? c).map (·, rest)
    | some count => do
      let (n, rest) ← readHex spaced count 0 rest
      if n.isValidChar then return (.literal ⟨Char.ofNat n, c = 'x'⟩, rest) else none

/-! ## 3. Sets -/

/-- Reads a character or an escape in a set. -/
def readPiece (spaced : Bool) : List Char → Option (Escape × List Char)
  | [] => none
  | '\\' :: rest => readEscape spaced rest
  | c :: rest => some (.literal ⟨c, false⟩, rest)

def Escape.item? : Escape → Option CharSet
  | .literal value => some (.literal value)
  | .shorthand negated => some (.shorthand negated)
  | .anchor | .wordBoundary => none

/-- The range between two characters, which must not be empty. -/
def range? : Escape → Escape → Option CharSet
  | .literal first, .literal last =>
    if first.char ≤ last.char then some (.range first last) else none
  | _, _ => none

/-- Reads an item of a set, which may be a range. A hyphen before another one or before the end of
the set makes no range. -/
def readItem (spaced : Bool) (cs : List Char) : Option (CharSet × List Char) := do
  let (first, rest) ← readPiece spaced cs
  match skip spaced rest with
  | '-' :: after =>
    if peek spaced after = some ']' || peek spaced after = some '-' then
      return (← first.item?, '-' :: after)
    else
      let (last, rest) ← readPiece spaced (skip spaced after)
      return (← range? first last, rest)
  | rest => return (← first.item?, rest)

def classNames : List String :=
  ["alnum", "alpha", "ascii", "blank", "cntrl", "digit", "graph", "lower", "print", "punct",
    "space", "upper", "word", "xdigit"]

/-- Reads the name of a class between colons and a bracket, after its first bracket. A caret
negates it. -/
def readClassName (cs : List Char) : Option (Bool × List Char) :=
  match cs with
  | ':' :: rest =>
    let negated := rest.head? = some '^'
    let name := if negated then rest.drop 1 else rest
    match name.span (· != ':') with
    | (name, ':' :: ']' :: rest) =>
      if classNames.contains (String.ofList name) then some (negated, rest) else none
    | _ => none
  | _ => none

/-- Whether a set is negated, and its text after the caret. -/
def readCaret (spaced : Bool) (cs : List Char) : Bool × List Char :=
  match skip spaced cs with
  | '^' :: rest => (true, rest)
  | rest => (false, rest)

/-- A set between two operators, joined with what stands on the left of it. -/
def joinSets (left : Option CharSet) (items : List CharSet) : CharSet :=
  let right := CharSet.ofItems items.reverse
  match left with
  | none => right
  | some left => .combined left right

/-- Reads a set up to its closing bracket. While it is `opening`, hyphens stand for themselves, and
so does a bracket right at the beginning. The items read so far are kept in reverse, with what
stands on the left of the last operator. -/
def readItems (spaced : Bool) : (fuel : Nat) → (opening : Bool) → Option CharSet → List CharSet →
    List Char → Option (CharSet × List Char)
  | 0, _, _, _, _ => none
  | fuel + 1, opening, left, items, cs =>
    match skip spaced cs with
    | [] => none
    | c :: rest =>
      if opening && (c = '-' || (c = ']' && items.isEmpty)) then
        readItems spaced fuel (c = '-') left (.literal ⟨c, false⟩ :: items) rest
      else
        match c, rest with
        | ']', rest => some (joinSets left items, rest)
        | '&', '&' :: rest | '-', '-' :: rest | '~', '~' :: rest =>
          readItems spaced fuel false (some (joinSets left items)) [] rest
        | '[', rest =>
          match readClassName rest with
          | some (negated, rest) => readItems spaced fuel false left (.named negated :: items) rest
          | none => do
            let (negated, rest) := readCaret spaced rest
            let (inner, rest) ← readItems spaced fuel true none [] rest
            readItems spaced fuel false left (.bracketed negated inner :: items) rest
        | c, rest => do
          let (item, rest) ← readItem spaced (c :: rest)
          readItems spaced fuel false left (item :: items) rest

/-- Reads a set after its opening bracket. -/
def readSet (spaced : Bool) (fuel : Nat) (cs : List Char) : Option (CharSet × List Char) := do
  let (negated, rest) := readCaret spaced cs
  let (inner, rest) ← readItems spaced fuel true none [] rest
  return (.bracketed negated inner, rest)

/-! ## 4. Groups -/

/-- Reads the letters of flags up to a colon or bracket. Those after a hyphen are switched off. No
flag is named twice, and a hyphen needs a flag after it. -/
def readFlags (change : FlagChange) (negated : Bool) : List Char → Option (FlagChange × List Char)
  | [] => none
  | c :: rest =>
    if c = ':' || c = ')' then
      if negated && change.off.isEmpty then none else some (change, c :: rest)
    else if c = '-' then
      if negated then none else readFlags change true rest
    else
      match Flag.ofLetter? c with
      | none => none
      | some flag =>
        if change.on.contains flag || change.off.contains flag then none
        else if negated then readFlags { change with off := flag :: change.off } true rest
        else readFlags { change with on := flag :: change.on } false rest

/-- Reads the name of a group up to its closing bracket. -/
def readGroupName (cs : List Char) : Option (List Char × List Char) :=
  match cs.span (· != '>') with
  | (c :: name, _ :: rest) =>
    let isNameChar (c : Char) : Bool := ['_', '.', '[', ']'].contains c || isWordChar c
    if (c = '_' || isLetter c) && name.all isNameChar then some (c :: name, rest) else none
  | _ => none

/-- What an opening bracket begins. -/
inductive Opening where
  | flags (change : FlagChange)
  | group (change : FlagChange) (name : Option (List Char))
deriving DecidableEq, Repr

def noChange : FlagChange := ⟨[], []⟩

/-- Reads what an opening bracket begins. Flags alone must change something. -/
def readOpening (spaced : Bool) (cs : List Char) : Option (Opening × List Char) :=
  match skip spaced cs with
  | '?' :: 'P' :: '<' :: rest | '?' :: '<' :: rest =>
    (readGroupName rest).map fun (name, rest) => (.group noChange (some name), rest)
  | '?' :: rest =>
    match readFlags noChange false rest with
    | some (change, ')' :: rest) => if change = noChange then none else some (.flags change, rest)
    | some (change, _ :: rest) => some (.group change none, rest)
    | _ => none
  | rest => some (.group noChange none, rest)

/-- A group that is not closed yet: its flags, and what the group around it held before. -/
structure OpenGroup where
  change : FlagChange
  branches : List Pattern
  items : List Pattern
  spaced : Bool

/-- How far a pattern is read. Branches and items of the innermost group are kept in reverse. -/
structure Progress where
  outer : List OpenGroup
  branches : List Pattern
  items : List Pattern
  names : List (List Char)
  spaced : Bool

namespace Progress

/-- Nothing is read yet. -/
def start : Progress := ⟨[], [], [], [], false⟩

/-- What stands in the innermost group. -/
def body (p : Progress) : Pattern :=
  ofChoice ((ofSequence p.items.reverse :: p.branches).reverse)

def push (p : Progress) (item : Pattern) : Progress := { p with items := item :: p.items }

/-- Begins a group, or changes flags. No two groups have the same name. -/
def enter? (p : Progress) : Opening → Option Progress
  | .flags change =>
    some { p.push (.flags change) with spaced := change.apply .spaced p.spaced }
  | .group change name =>
    if name.any p.names.contains then none
    else some {
      outer := ⟨change, p.branches, p.items, p.spaced⟩ :: p.outer
      branches := []
      items := []
      names := name.toList ++ p.names
      spaced := change.apply .spaced p.spaced }

/-- Ends the innermost group. -/
def leave? (p : Progress) : Option Progress :=
  match p.outer with
  | [] => none
  | place :: outer =>
    some { p with
      outer
      branches := place.branches
      items := .group place.change p.body :: place.items
      spaced := place.spaced }

def branch (p : Progress) : Progress :=
  { p with branches := ofSequence p.items.reverse :: p.branches, items := [] }

/-- Repeats the last item. A change of flags cannot be repeated. -/
def repeat? (p : Progress) : Option Progress :=
  match p.items with
  | [] | .flags _ :: _ => none
  | item :: items => some { p with items := .repeated item :: items }

end Progress

/-! ## 5. Patterns -/

def Escape.pattern : Escape → Pattern
  | .literal value => .literal value
  | .shorthand negated => .shorthand negated
  | .anchor => .anchor
  | .wordBoundary => .wordBoundary

/-- Reads the next part of a pattern. -/
def step (fuel : Nat) (p : Progress) : List Char → Option (Progress × List Char)
  | [] => none
  | c :: rest =>
    match c with
    | '(' => do
      let (opening, rest) ← readOpening p.spaced rest
      return (← p.enter? opening, rest)
    | ')' => p.leave?.map (·, rest)
    | '|' => some (p.branch, rest)
    | '[' => (readSet p.spaced fuel rest).map fun (chars, rest) => (p.push (.set chars), rest)
    | '*' | '+' | '?' =>
      p.repeat?.map (·, if rest.head? = some '?' then rest.drop 1 else rest)
    | '{' => none
    | '.' => some (p.push .dot, rest)
    | '^' | '$' => some (p.push .anchor, rest)
    | '\\' => (readEscape p.spaced rest).map fun (escape, rest) => (p.push escape.pattern, rest)
    | c => some (p.push (.literal ⟨c, false⟩), rest)

/-- Reads the rest of a pattern. Every group has to be closed in the end. -/
def readRest : (fuel : Nat) → Progress → List Char → Option Pattern
  | 0, _, _ => none
  | fuel + 1, p, cs =>
    match skip p.spaced cs with
    | [] => if p.outer.isEmpty then some p.body else none
    | rest => (step fuel p rest).bind fun (p, rest) => readRest fuel p rest

def read? (cs : List Char) : Option Pattern := readRest (cs.length + 2) .start cs

end ShopQuery.Pattern
