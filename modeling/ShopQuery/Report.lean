import ShopQuery.Document.Basic
import ShopQuery.Query.Database
import ShopQuery.Request.Period
import ShopQuery.Request.Plan

/-!
# Reports

How a request is answered with the help of a database.

## Search

Every statement of the plan is asked, in order. The first one that fails, or whose rows are no
names, ends the search, and nothing of the entries before it is kept.

## Statistics

The weekdays of the period are asked first, then the spending of the customers on these days.
-/

namespace ShopQuery

inductive Mode where
  | search
  | stat
deriving DecidableEq, Repr

namespace Report

/-! ## 1. Reading rows -/

/-- The name in a row. -/
def customerName (result : QueryResult) (row : Row) : Except QueryFault CustomerName := do
  let lastName ← result.text row "last_name"
  let firstName ← result.text row "first_name"
  return ⟨lastName, firstName⟩

def customerNames (result : QueryResult) : Except QueryFault (List CustomerName) :=
  result.rows.mapM (customerName result)

def customerExpense (result : QueryResult) (row : Row) : Except QueryFault CustomerExpense := do
  let lastName ← result.text row "last_name"
  let firstName ← result.text row "first_name"
  let totalExpenses ← result.int row "total_expenses"
  return ⟨lastName ++ " " ++ firstName, totalExpenses⟩

def customerExpenses (result : QueryResult) : Except QueryFault (List CustomerExpense) :=
  result.rows.mapM (customerExpense result)

/-- The number of weekdays in the first row. -/
def totalDays (result : QueryResult) : Except QueryFault Int64 :=
  match result.rows with
  | [] => .error .noWeekdayRows
  | row :: _ => result.int row "total_days"

/-! ## 2. Asking -/

variable {σ : Type}

/-- A value that was computed without the database. -/
def pureValue {α : Type} (value : Except Error α) : Dialogue σ α := ExceptT.mk (pure value)

/-- A value that was read from a result. -/
def readValue {α : Type} (value : Except QueryFault α) : Dialogue σ α :=
  pureValue (value.mapError QueryFault.error)

/-- Asks planned queries, one after the other. -/
def searchEntries (db : Database σ) : List PlannedQuery → Dialogue σ (List SearchEntry)
  | [] => pure []
  | query :: rest => do
    let result ← db.execute query.statement
    let names ← readValue (customerNames result)
    let entries ← searchEntries db rest
    return ⟨query.item, names⟩ :: entries

def search (db : Database σ) (request : Json) : Dialogue σ Document := do
  let plan ← pureValue (Plan.ofRequest request)
  return .search (← searchEntries db plan)

def stat (db : Database σ) (request : Json) : Dialogue σ Document := do
  let period ← pureValue (Period.ofRequest request)
  let bounds : List Param := [.date period.start, .date period.finish]
  let days ← db.execute ⟨.weekdayCount, bounds⟩
  let total ← readValue (totalDays days)
  let expenses ← db.execute ⟨.customerExpenses, bounds⟩
  let customers ← readValue (customerExpenses expenses)
  return .stat total customers

def answer (db : Database σ) (mode : Mode) (request : Json) : Dialogue σ Document :=
  match mode with
  | .search => search db request
  | .stat => stat db request

end Report

end ShopQuery
