/-!
# Diagnostics of TOML

What is told of a text that is refused as TOML, or for a value in it. A diagnostic names a place in
the text, repeats the line of the text that has the place, marks the place under that line, and ends
with the cause. A fault without a place is told by its cause and the keys that lead to it.

## What is left open

Where a fault is placed, how much of the line is marked and how the cause is put is up to the
library that reads the text. Its grammar is followed in this project, its wording is not: what it
finds is a parameter (`Diagnostics`), and only the layout around it is fixed. So whatever is said of
diagnostics holds for every wording; above all, that they repeat a line of the text as it stands.
-/

namespace ShopQuery.Toml

/-- A place in a text. Lines and columns count from one. -/
structure Place where
  line : Nat
  column : Nat
  /-- How many characters are marked. One is always marked. -/
  width : Nat
deriving DecidableEq, Repr

/-- What is found wrong with a text. -/
structure Diagnosis where
  place? : Option Place
  cause : String
  /-- The keys that lead to the fault, from the outermost on. -/
  keys : List String
deriving DecidableEq, Repr

/-- What the library finds wrong with each text that it refuses. -/
class Diagnostics where
  diagnose : String → Diagnosis

/-- A line of a text, without its end. Lines count from zero here. -/
def lineOf : Nat → List Char → List Char
  | 0, cs => cs.takeWhile (· != '\n')
  | n + 1, cs => lineOf n ((cs.dropWhile (· != '\n')).drop 1)

/-- The line of a text that has a place. -/
def Place.lineIn (place : Place) (text : String) : String :=
  String.ofList (lineOf (place.line - 1) text.toList)

/-- The same character a number of times. -/
def repeated (c : Char) (count : Nat) : String := String.ofList (List.replicate count c)

/-- The margin beside a line that is repeated: as wide as its number. -/
def Place.margin (place : Place) : String :=
  repeated ' ' ((toString place.line).length + 1) ++ "|"

/-- What stands in front of the line that is repeated. -/
def Place.heading (place : Place) : String :=
  s!"TOML parse error at line {place.line}, column {place.column}\n" ++ place.margin ++ "\n" ++
    s!"{place.line} | "

/-- What stands behind it: the marks under the place. -/
def Place.marks (place : Place) : String :=
  "\n" ++ place.margin ++ repeated ' ' place.column ++ repeated '^' (max 1 place.width) ++ "\n"

/-- A place, with the line of the text that has it. -/
def Place.excerpt (place : Place) (text : String) : String :=
  place.heading ++ place.lineIn text ++ place.marks

/-- The diagnostic of a text. Keys are told only where no place is. -/
def Diagnosis.message (diagnosis : Diagnosis) (text : String) : String :=
  match diagnosis.place?, diagnosis.keys with
  | some place, _ => place.excerpt text ++ diagnosis.cause ++ "\n"
  | none, [] => diagnosis.cause ++ "\n"
  | none, keys => diagnosis.cause ++ "\n" ++ "in `" ++ ".".intercalate keys ++ "`\n"

/-- What is told of a text that is refused. -/
def diagnostic [Diagnostics] (text : String) : String := (Diagnostics.diagnose text).message text

end ShopQuery.Toml
