/-!
# Patterns

Regular expressions as trees.

How a pattern is read and matched depends on its flags. They can be set for a group, or from some
place on to the end of the group that it stands in. So the tree keeps the places where flags change.
-/

namespace ShopQuery.Pattern

/-! ## 1. Flags -/

/-- What can be switched on and off in a pattern. -/
inductive Flag where
  /-- Letters stand for those of either case. -/
  | anyCase
  /-- Anchors match at line ends. -/
  | multiLine
  /-- A dot matches line ends too. -/
  | dotAll
  /-- Repetitions are as short as they can be. -/
  | swapGreed
  /-- Characters count, not octets. -/
  | unicode
  /-- A carriage return may stand before a line end. -/
  | crlf
  /-- Blanks and comments count for nothing. -/
  | spaced
deriving DecidableEq, Repr

def Flag.ofLetter? : Char → Option Flag
  | 'i' => some .anyCase
  | 'm' => some .multiLine
  | 's' => some .dotAll
  | 'U' => some .swapGreed
  | 'u' => some .unicode
  | 'R' => some .crlf
  | 'x' => some .spaced
  | _ => none

/-- Flags that are switched on or off. -/
structure FlagChange where
  on : List Flag
  off : List Flag
deriving DecidableEq, Repr

def FlagChange.apply (change : FlagChange) (flag : Flag) (before : Bool) : Bool :=
  if change.on.contains flag then true
  else if change.off.contains flag then false
  else before

/-! ## 2. Trees -/

/-- A character of a pattern. Without Unicode, one that is written as `\xHH` is an octet. -/
structure Literal where
  char : Char
  asOctet : Bool
deriving DecidableEq, Repr

inductive CharSet where
  | empty
  | literal (value : Literal)
  | range (first last : Literal)
  /-- A class of ASCII by its name. -/
  | named (negated : Bool)
  /-- A class by a letter: digits, blanks, or what words are made of. -/
  | shorthand (negated : Bool)
  | bracketed (negated : Bool) (inner : CharSet)
  | union (items : List CharSet)
  /-- What two sets have in common, or in what way they differ. -/
  | combined (left right : CharSet)
deriving Repr

end Pattern

inductive Pattern where
  | empty
  | flags (change : Pattern.FlagChange)
  | literal (value : Pattern.Literal)
  /-- Any character. -/
  | dot
  /-- The beginning or the end of a line or of the text. -/
  | anchor
  /-- A place where a word begins or ends, or where none does. -/
  | wordBoundary
  /-- A class by a letter: digits, blanks, or what words are made of. -/
  | shorthand (negated : Bool)
  | set (chars : Pattern.CharSet)
  | repeated (inner : Pattern)
  | group (change : Pattern.FlagChange) (inner : Pattern)
  | sequence (items : List Pattern)
  | choice (items : List Pattern)
deriving Repr

namespace Pattern

/-- The set of some items: one alone stands for itself. -/
def CharSet.ofItems : List CharSet → CharSet
  | [] => .empty
  | [item] => item
  | items => .union items

/-- Patterns one after the other: one alone stands for itself. -/
def ofSequence : List Pattern → Pattern
  | [] => .empty
  | [item] => item
  | items => .sequence items

/-- One of some patterns: one alone stands for itself. -/
def ofChoice : List Pattern → Pattern
  | [] => .empty
  | [item] => item
  | items => .choice items

/-! ## 3. Heights -/

/-- How deep the parts of a set lie in each other. -/
def CharSet.height : CharSet → Nat
  | .empty | .literal _ | .range _ _ | .named _ | .shorthand _ => 0
  | .bracketed _ inner => inner.height + 1
  | .union items => heightAll items + 1
  | .combined left right => max left.height right.height + 1
where
  /-- The height of the highest of some sets. -/
  heightAll : List CharSet → Nat
    | [] => 0
    | item :: rest => max item.height (heightAll rest)

/-- How deep the parts of a pattern lie in each other. -/
def height : Pattern → Nat
  | .empty | .flags _ | .literal _ | .dot | .anchor | .wordBoundary | .shorthand _ => 0
  | .set chars => chars.height
  | .repeated inner | .group _ inner => inner.height + 1
  | .sequence items | .choice items => heightAll items + 1
where
  /-- The height of the highest of some patterns. -/
  heightAll : List Pattern → Nat
    | [] => 0
    | item :: rest => max item.height (heightAll rest)

end Pattern

end ShopQuery
