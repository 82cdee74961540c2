/-!
# Command-line tokens

What an argument looks like, before it is known what it is for. One dash alone is a word like any
other, so that it may name a file.
-/

namespace ShopQuery.CommandLine

/-- What an argument looks like. -/
inductive Token where
  /-- Two dashes: only words follow. -/
  | escape
  /-- Two dashes and a name, and perhaps a value after an equals sign. -/
  | long (name : String) (value : Option String)
  /-- A dash and letters, of which the first is kept. -/
  | short (letter : Char)
  /-- Anything else. -/
  | word (text : String)
deriving DecidableEq, Repr

/-- The name of a long argument and the value after its first equals sign. -/
def longToken (cs : List Char) : Token :=
  match cs.span (· != '=') with
  | (name, '=' :: value) => .long (String.ofList name) (some (String.ofList value))
  | (name, _) => .long (String.ofList name) none

/-- Looks at an argument. -/
def Token.ofText (text : String) : Token :=
  match text.toList with
  | ['-', '-'] => .escape
  | '-' :: '-' :: rest => longToken rest
  | '-' :: letter :: _ => .short letter
  | _ => .word text

end ShopQuery.CommandLine
