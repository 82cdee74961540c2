import ShopQuery.Document.Basic
import ShopQuery.Json.Reader

/-!
# Decoding result documents

Reads back what was written, and a little more: members may come in any order, and members that are
not known are ignored. An array may stand in place of an object; its items are the kind, if the
object carries one, and then the members in the order in which they are written, none more.

A known member may not be repeated. Inside criteria, which may be any value, repeated keys collapse
as they do in a request.
-/

namespace ShopQuery

namespace Decode

/-- The values of members with a key. -/
def valuesOf (key : String) (members : List (String × Json)) : List Json :=
  (members.filter (·.1 == key)).map Prod.snd

/-- The value of a member that has to stand exactly once. -/
def single (key : String) (members : List (String × Json)) : Option Json :=
  match valuesOf key members with
  | [value] => some value
  | _ => none

/-- The values of an object's members in a given order, or of an array of as many items. -/
def fields (keys : List String) : Json → Option (List Json)
  | .object members => keys.mapM fun key => single key members
  | .array items => if items.length = keys.length then some items else none
  | _ => none

/-- Every item of an array, decoded. -/
def list {α : Type} (item : Json → Option α) (value : Json) : Option (List α) := do
  (← value.items?).mapM item

def customerName (value : Json) : Option CustomerName := do
  match ← fields ["lastName", "firstName"] value with
  | [lastName, firstName] => return ⟨← lastName.string?, ← firstName.string?⟩
  | _ => none

def searchEntry (value : Json) : Option SearchEntry := do
  match ← fields ["criteria", "results"] value with
  | [criteria, results] => return ⟨criteria.collapse, ← list customerName results⟩
  | _ => none

def customerExpense (value : Json) : Option CustomerExpense := do
  match ← fields ["name", "totalExpenses"] value with
  | [name, totalExpenses] => return ⟨← name.string?, ← totalExpenses.int64?⟩
  | _ => none

/-- The kind of a document, and its value without the kind. -/
def tagged : Json → Option (String × Json)
  | .object members => do
    let kind ← (← single "type" members).string?
    return (kind, .object (members.filter (·.1 != "type")))
  | .array (kind :: rest) => do return (← kind.string?, .array rest)
  | _ => none

def document (value : Json) : Option Document := do
  let (kind, body) ← tagged value
  match kind with
  | "search" =>
    match ← fields ["results"] body with
    | [results] => return .search (← list searchEntry results)
    | _ => none
  | "stat" =>
    match ← fields ["totalDays", "customers"] body with
    | [totalDays, customers] =>
      return .stat (← totalDays.int64?) (← list customerExpense customers)
    | _ => none
  | "error" =>
    match ← fields ["message"] body with
    | [message] => return .error (← message.string?)
    | _ => none
  | _ => none

end Decode

def Document.decode (text : String) : Option Document :=
  match Json.readTree text with
  | .ok value => Decode.document value
  | .error _ => none

end ShopQuery
