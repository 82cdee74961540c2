import ShopQuery.Request.Criteria

/-!
# Search plans

A search request lists criteria items. Its plan has one statement for each item, in order; the
first item that is at fault decides the error, and then there is no plan at all.
-/

namespace ShopQuery

/-- What is asked for one criteria item. -/
structure PlannedQuery where
  /-- The item as the request has it. -/
  item : Json
  kind : CriteriaKind
  statement : Statement
deriving Repr

namespace Plan

/-- The criteria items of a request: at least one. -/
def items (request : Json) : Except Error (List Json) :=
  match (request.member? "criterias").bind Json.items? with
  | some (first :: rest) => .ok (first :: rest)
  | _ => .error .missingCriterias

def ofItem (item : Json) : Except Error PlannedQuery := do
  let criteria ← Criteria.ofJson item
  let kind ← criteria.classify
  let statement ← criteria.statement kind
  return ⟨item, kind, statement⟩

def ofRequest (request : Json) : Except Error (List PlannedQuery) := do
  (← items request).mapM ofItem

end Plan

end ShopQuery
