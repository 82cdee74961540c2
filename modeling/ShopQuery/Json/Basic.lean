import ShopQuery.Number.Bigint
import ShopQuery.Number.Binary64

/-!
# JSON values

The values of a JSON text, and what a reader of documents asks of them.

## Members

The members of an object are kept in a list, in order. A text may repeat a key; `collapse` keeps,
at the place where a key first stands, the value that stands last. Values that come from a text as
a whole are collapsed; a decoder that has to see a repeated key works on the value before that.
-/

namespace ShopQuery

/-- A JSON number: an integer where the text has neither fraction nor exponent and its value fits
64 bits, signed or unsigned, and a floating-point value otherwise. -/
inductive Json.Number where
  | integer (value : Int)
  | float (value : Binary64)
deriving DecidableEq, Repr

inductive Json where
  | null
  | bool (value : Bool)
  | number (value : Json.Number)
  | string (value : String)
  | array (items : List Json)
  | object (members : List (String × Json))
deriving Repr, Inhabited

namespace Json

/-! ## 1. Repeated keys -/

/-- Sets a member: in place where the key stands already, at the end otherwise. -/
def setMember (key : String) (value : Json) : List (String × Json) → List (String × Json)
  | [] => [(key, value)]
  | (k, v) :: rest => if k = key then (k, value) :: rest else (k, v) :: setMember key value rest

/-- The members with every key once, each with its last value. -/
def collapseMembers (members : List (String × Json)) : List (String × Json) :=
  members.foldl (fun acc m => setMember m.1 m.2 acc) []

mutual

/-- The value with every key once in every object. -/
def collapse : Json → Json
  | .array items => .array (collapseItems items)
  | .object members => .object (collapseMembers (collapseValues members))
  | other => other

def collapseItems : List Json → List Json
  | [] => []
  | item :: rest => collapse item :: collapseItems rest

/-- Every member's value collapsed, the members themselves kept. -/
def collapseValues : List (String × Json) → List (String × Json)
  | [] => []
  | (key, value) :: rest => (key, collapse value) :: collapseValues rest

end

/-! ## 2. Questions -/

/-- The value of the first member with a key. -/
def lookup (key : String) : List (String × Json) → Option Json
  | [] => none
  | (k, v) :: rest => if k = key then some v else lookup key rest

def member? (key : String) : Json → Option Json
  | .object members => lookup key members
  | _ => none

def string? : Json → Option String
  | .string value => some value
  | _ => none

def items? : Json → Option (List Json)
  | .array items => some items
  | _ => none

/-- The value of an integer that fits 64 signed bits. -/
def int64? : Json → Option Int64
  | .number (.integer n) => int64OfInt? n
  | _ => none

/-- The number that stands for a 64-bit integer. -/
def ofInt64 (n : Int64) : Json := .number (.integer n.toInt)

end Json

end ShopQuery
