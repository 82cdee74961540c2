import ShopQuery.Pattern.Reader

/-!
# Patterns that can be matched

A pattern is matched by an automaton over the octets of a text. The automaton knows no tables of
Unicode, so with Unicode switched on there are no shorthands, no word boundaries, and no letters
that stand for those of either case. It only ever accepts whole characters, so with Unicode switched
off nothing may match an octet beyond ASCII: no dot, no negated set, no such octet itself.
-/

namespace ShopQuery.Pattern

/-- The deepest that parts of a pattern may lie in each other. -/
def maxHeight : Nat := 250

/-- The flags that decide what can be matched. -/
structure Modes where
  unicode : Bool
  anyCase : Bool
deriving DecidableEq, Repr

namespace Modes

def start : Modes := ⟨true, false⟩

def apply (modes : Modes) (change : FlagChange) : Modes :=
  ⟨change.apply .unicode modes.unicode, change.apply .anyCase modes.anyCase⟩

/-- Whether a character outside of sets can be matched. -/
def allow (modes : Modes) (value : Literal) : Bool :=
  if modes.unicode then !modes.anyCase else !value.asOctet || value.char.toNat < 0x80

/-- Whether a character in a set can be matched. -/
def allowInSet (modes : Modes) (value : Literal) : Bool :=
  if modes.unicode then !modes.anyCase else value.char.toNat < 0x80

def allowShorthand (modes : Modes) (negated : Bool) : Bool := !modes.unicode && !negated

end Modes

def CharSet.isSupported (modes : Modes) : CharSet → Bool
  | .empty => true
  | .literal value => modes.allowInSet value
  | .range first last => modes.allowInSet first && modes.allowInSet last
  | .named negated => if modes.unicode then !modes.anyCase else !negated
  | .shorthand negated => modes.allowShorthand negated
  | .bracketed negated inner => inner.isSupported modes && (modes.unicode || !negated)
  | .union items => allSupported modes items
  | .combined left right => left.isSupported modes && right.isSupported modes
where
  /-- Whether all of some sets can be matched. -/
  allSupported (modes : Modes) : List CharSet → Bool
    | [] => true
    | item :: rest => item.isSupported modes && allSupported modes rest

/-- The flags after a pattern that can be matched; none if it cannot. -/
def check (modes : Modes) : Pattern → Option Modes
  | .empty | .anchor => some modes
  | .flags change => some (modes.apply change)
  | .literal value => if modes.allow value then some modes else none
  | .dot => if modes.unicode then some modes else none
  | .wordBoundary => if modes.unicode then none else some modes
  | .shorthand negated => if modes.allowShorthand negated then some modes else none
  | .set chars => if chars.isSupported modes then some modes else none
  | .repeated inner => inner.check modes
  | .group change inner => (inner.check (modes.apply change)).map fun _ => modes
  | .sequence items | .choice items => checkAll modes items
where
  /-- The flags after patterns one after the other. -/
  checkAll (modes : Modes) : List Pattern → Option Modes
    | [] => some modes
    | item :: rest => (item.check modes).bind fun modes => checkAll modes rest

/-- Whether a text spells a pattern that can be matched. -/
def isUsable (cs : List Char) : Bool :=
  match read? cs with
  | some pattern => pattern.height ≤ maxHeight && (pattern.check .start).isSome
  | none => false

/-- Groups, sets and repetitions may be combined; every group has to be closed. -/
example : isUsable "(a|[b-d])*?".toList && !isUsable "(a".toList && !isUsable "\\w".toList := by
  decide +kernel

end ShopQuery.Pattern
