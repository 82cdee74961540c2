import ShopQuery.Files.Tree
import ShopQuery.Settings.Environment
import ShopQuery.Text.Blank
import ShopQuery.Text.Word

/-!
# Environment files

A file of variables for the environment: lines of the form `NAME=value`. Variables that are set
already stay as they are. Reading ends at the first line that is at fault; the lines before it
count. A value that no variable can hold spoils the whole.

## Lines

A quote or an escape at the end of a line carries it on to the next one. A `#` after a blank begins
a comment.

## Values

In single quotes every character stands for itself. Elsewhere a backslash escapes one of a few
characters, and `$NAME` or `$` and a name in braces stand for a variable's value. A blank outside
quotes ends a value.
-/

namespace ShopQuery.EnvFile

/-! ## 1. Lines -/

/-- Where in a line a reader is. -/
inductive Place where
  | plain
  | blank
  | escape
  | strong
  | strongEscape
  | weak
  | weakEscape
deriving DecidableEq, Repr

/-- The place outside quotes after a character that is no blank. -/
def outside (c : Char) : Place :=
  match c with
  | '\\' => .escape
  | '"' => .weak
  | '\'' => .strong
  | _ => .plain

/-- The place after a character; none where a comment begins. -/
def next (place : Place) (c : Char) : Option Place :=
  match place with
  | .blank => if c = '#' then none else some (outside c)
  | .plain => if isBlank c && c != '\n' && c != '\r' then some .blank else some (outside c)
  | .escape => some .plain
  | .strong =>
    match c with
    | '\\' => some .strongEscape
    | '\'' => some .plain
    | _ => some .strong
  | .strongEscape => some .strong
  | .weak =>
    match c with
    | '\\' => some .weakEscape
    | '"' => some .plain
    | _ => some .weak
  | .weakEscape => some .weak

/-- The part of a line before a comment, and the place at its end; none if there is a comment. -/
def scan (place : Place) : List Char → List Char × Option Place
  | [] => ([], some place)
  | c :: rest =>
    match next place c with
    | none => ([], none)
    | some place =>
      let (kept, last) := scan place rest
      (c :: kept, last)

def dropLineEnd (line : List Char) : List Char :=
  match line.reverse with
  | '\n' :: '\r' :: rest => rest.reverse
  | '\n' :: rest => rest.reverse
  | _ => line

/-- The octets of each line, with its line end. -/
def splitLines (here : List UInt8) : List UInt8 → List (List UInt8)
  | [] => if here.isEmpty then [] else [here.reverse]
  | 10 :: rest => (10 :: here).reverse :: splitLines [] rest
  | b :: rest => splitLines (b :: here) rest

/-- The lines that belong together, one text for each. The last one is none if something is wrong
with it: an octet sequence that is no text, or a quote that is not closed. -/
def joinLines (begun : List Char) (place : Place) : List (List UInt8) → List (Option (List Char))
  | [] => if place = .plain then [] else [none]
  | octets :: rest =>
    match Utf8.decode octets with
    | .error _ => [none]
    | .ok line =>
      let whole := begun ++ line.toList
      if (dropBlanks whole).head? = some '#' then some [] :: joinLines [] .plain rest
      else
        match scan place line.toList with
        | (kept, none) => some (begun ++ kept) :: joinLines [] .plain rest
        | (_, some .plain) => some (dropLineEnd whole) :: joinLines [] .plain rest
        | (_, some place) => joinLines whole place rest

/-! ## 2. Values -/

/-- Where in a value a reader is. -/
inductive ValuePlace where
  | plain
  | strong
  | weak
  | escape (quoted : Bool)
  /-- After a dollar sign; the name is kept in reverse. -/
  | variable (quoted : Bool) (name : List Char)
  /-- In the braces after a dollar sign. -/
  | braced (quoted : Bool) (name : List Char)
  /-- After a blank. -/
  | after
deriving DecidableEq, Repr

/-- The place outside of escapes and variables. -/
def base (quoted : Bool) : ValuePlace := if quoted then .weak else .plain

/-- The characters that a name stands for. -/
def substitute (env : Environment) (name : List Char) : List Char :=
  ((env.reach? (String.ofList name.reverse)).getD "").toList

/-- The character that a backslash makes of another. -/
def escaped? (c : Char) : Option Char :=
  match c with
  | '\\' | '\'' | '"' | '$' | ' ' => some c
  | 'n' => some '\n'
  | _ => none

def readValue (env : Environment) : ValuePlace → List Char → Option (List Char)
  | .plain, [] | .escape false, [] | .after, [] => some []
  | .variable false name, [] => some (substitute env name)
  | .strong, [] | .weak, [] | .escape true, [] | .variable true _, [] | .braced _ _, [] => none
  | .after, c :: rest =>
    if c = ' ' || c = '\t' then readValue env .after rest
    else if c = '#' then some []
    else none
  | .escape quoted, c :: rest =>
    match escaped? c with
    | some c => (readValue env (base quoted) rest).map (c :: ·)
    | none => none
  | .strong, c :: rest =>
    if c = '\'' then readValue env .plain rest else (readValue env .strong rest).map (c :: ·)
  | .variable quoted name, c :: rest =>
    if isWordChar c then readValue env (.variable quoted (c :: name)) rest
    else if c = '{' && name.isEmpty then readValue env (.braced quoted []) rest
    else if c = '$' then
      (readValue env (.variable quoted []) rest).map (substitute env name ++ ·)
    else (readValue env (base quoted) rest).map (substitute env name ++ c :: ·)
  | .braced quoted name, c :: rest =>
    if c = '}' then (readValue env (base quoted) rest).map (substitute env name ++ ·)
    else readValue env (.braced quoted (c :: name)) rest
  | .weak, c :: rest =>
    match c with
    | '$' => readValue env (.variable true []) rest
    | '"' => readValue env .plain rest
    | '\\' => readValue env (.escape true) rest
    | c => (readValue env .weak rest).map (c :: ·)
  | .plain, c :: rest =>
    match c with
    | '$' => readValue env (.variable false []) rest
    | '\'' => readValue env .strong rest
    | '"' => readValue env .weak rest
    | '\\' => readValue env (.escape false) rest
    | ' ' | '\t' => readValue env .after rest
    | c => (readValue env .plain rest).map (c :: ·)

/-! ## 3. Assignments -/

def beginsName (c : Char) : Bool := c.isAlpha || c = '_'

def isNameChar (c : Char) : Bool := c.isAlphanum || c = '_' || c = '.'

/-- A name, and what follows it and blanks. -/
def readName (cs : List Char) : Option (String × List Char) :=
  match cs with
  | c :: _ =>
    if beginsName c then
      some (String.ofList (cs.takeWhile isNameChar), dropBlanks (cs.dropWhile isNameChar))
    else none
  | [] => none

/-- The name before an equals sign, which may have `export` in front, and what follows the sign. -/
def readTarget (cs : List Char) : Option (String × List Char) := do
  match ← readName cs with
  | (name, '=' :: rest) => return (name, rest)
  | ("export", rest) =>
    match ← readName rest with
    | (name, '=' :: rest) => return (name, rest)
    | _ => none
  | _ => none

/-- The name and value that a line sets, if it is not blank; none if it is at fault. -/
def readLine (env : Environment) (line : List Char) : Option (Option (String × String)) :=
  match dropBlanks (dropBlanks line.reverse).reverse with
  | [] | '#' :: _ => some none
  | text => do
    let (name, rest) ← readTarget text
    match dropBlanks rest with
    | [] | '#' :: _ => return some (name, "")
    | value => return some (name, String.ofList (← readValue env .plain value))

/-- The environment with the variables that lines set, up to the first line at fault; none if a
variable cannot hold its value. -/
def setLines (env : Environment) : List (Option (List Char)) → Option Environment
  | some line :: rest =>
    match readLine env line with
    | some (some (name, value)) => (env.setDefault? name value).bind fun env => setLines env rest
    | some none => setLines env rest
    | none => some env
  | _ => some env

/-- The environment with the variables of a file, if it can hold them. A byte order mark in front
does not count. -/
def setOctets (env : Environment) (octets : List UInt8) : Option Environment :=
  let octets :=
    match octets with
    | 0xEF :: 0xBB :: 0xBF :: rest => rest
    | octets => octets
  setLines env (joinLines [] .plain (splitLines [] octets))

/-! ## 4. Loading -/

def fileName : String := ".env"

/-- The octets of the environment file in a directory, or in the nearest one above it. The names
that lead to the directory come last name first. -/
def findAbove (files : Files) : List String → Option (List UInt8)
  | [] => fileIn []
  | name :: above =>
    match fileIn (name :: above) with
    | some octets => some octets
    | none => findAbove files above
where
  /-- The environment file right in a directory. -/
  fileIn (names : List String) : Option (List UInt8) :=
    match files.node? (names.reverse ++ [fileName]) with
    | some (.file octets) => some octets
    | _ => none

/-- The environment with the variables of the environment file, if there is one; none if it cannot
hold them. -/
def load (files : Files) (env : Environment) : Option Environment :=
  match findAbove files files.workingDirectory.reverse with
  | some octets => setOctets env octets
  | none => some env

end ShopQuery.EnvFile
