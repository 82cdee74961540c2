import ShopQuery.Calendar.Weekdays
import ShopQuery.Query.Database
import ShopQuery.Shop.Tables

/-!
# Answering statements from tables

What each template means over the tables of a shop.

## Order

Names are compared by code point, last name before first name, and customers of equal names by
number. The sort is stable.

## Faults

Parameters are checked first, from the left, and as many as the template has; surplus ones are
ignored. A negative limit and a total that does not fit are faults of the query.
-/

namespace ShopQuery

/-! ## 1. Order -/

/-- Compares customers by last name, first name and number. -/
def Customer.compareByName (a b : Customer) : Ordering :=
  (compare a.lastName b.lastName).then
    ((compare a.firstName b.firstName).then (compare a.id.toInt b.id.toInt))

/-- Customers in the order of their names. -/
def sortByName (customers : List Customer) : List Customer :=
  customers.mergeSort fun a b => (a.compareByName b).isLE

/-! ## 2. Parameters -/

namespace Param

def at? (params : List Param) (position : Nat) : Except QueryFault Param :=
  match params[position]? with
  | some p => .ok p
  | none => .error (.noParameter position)

def textAt (params : List Param) (position : Nat) : Except QueryFault String := do
  match ← at? params position with
  | .text s => return s
  | other => throw (.parameterType position .text other)

def intAt (params : List Param) (position : Nat) : Except QueryFault Int64 := do
  match ← at? params position with
  | .int n => return n
  | other => throw (.parameterType position .integer other)

def dateAt (params : List Param) (position : Nat) : Except QueryFault Date := do
  match ← at? params position with
  | .date d => return d
  | other => throw (.parameterType position .date other)

end Param

/-! ## 3. Templates -/

namespace Shop

def withLastName (shop : Shop) (name : String) : List Customer :=
  sortByName (shop.customers.filter (·.lastName == name))

/-- Customers with enough purchases of products of a name. -/
def frequentBuyers (shop : Shop) (product : String) (least : Int64) : List Customer :=
  let groups := group (shop.joined fun _ p => p.name == product)
  sortByName ((groups.filter fun g => least.toInt ≤ g.count).map Group.customer)

/-- The groups with their totals, if every total fits. -/
def totals (groups : List Group) : Except QueryFault (List (Customer × Int64)) :=
  groups.mapM fun g =>
    match g.total with
    | some total => .ok (g.customer, total)
    | none => .error .bigintOutOfRange

/-- Customers whose total lies in a closed range. -/
def spending (shop : Shop) (least greatest : Int64) : Except QueryFault (List Customer) := do
  let sums ← totals (group (shop.joined fun _ _ => true))
  return sortByName ((sums.filter fun s => least ≤ s.2 && s.2 ≤ greatest).map Prod.fst)

/-- Compares groups by their number of rows, then by customer. -/
def compareByCount (a b : Group) : Ordering :=
  (compare a.count b.count).then (a.customer.compareByName b.customer)

/-- All buyers, the one with the fewest purchases first. -/
def ranking (shop : Shop) : List Customer :=
  ((group (shop.joined fun _ _ => true)).mergeSort fun a b => (compareByCount a b).isLE).map
    Group.customer

def rarestBuyers (shop : Shop) (limit : Int64) : Except QueryFault (List Customer) :=
  if limit < 0 then .error .negativeLimit else .ok (shop.ranking.take limit.toNatClampNeg)

/-- Compares totals, the greater one first, then customers. -/
def compareByTotal (a b : Customer × Int64) : Ordering :=
  (compare b.2.toInt a.2.toInt).then (a.1.compareByName b.1)

/-- A purchase on a weekday of a closed period. -/
def onWeekdayIn (start finish : Date) (purchase : Purchase) : Bool :=
  start ≤ purchase.date && purchase.date ≤ finish && purchase.date.isWeekday

/-- What each customer spent on the weekdays of a closed period. -/
def weekdaySpending (shop : Shop) (start finish : Date) :
    Except QueryFault (List (Customer × Int64)) := do
  let sums ← totals (group (shop.joined fun purchase _ => onWeekdayIn start finish purchase))
  return sums.mergeSort fun a b => (compareByTotal a b).isLE

/-! ## 4. Rows -/

def nameRow (c : Customer) : Row := [.text c.lastName, .text c.firstName]

def rows (shop : Shop) (statement : Statement) : Except QueryFault (List Row) := do
  let params := statement.params
  match statement.template with
  | .lastName =>
    let name ← Param.textAt params 0
    return (shop.withLastName name).map nameRow
  | .productFrequency =>
    let product ← Param.textAt params 0
    let least ← Param.intAt params 1
    return (shop.frequentBuyers product least).map nameRow
  | .expenseRange =>
    let least ← Param.intAt params 0
    let greatest ← Param.intAt params 1
    return (← shop.spending least greatest).map nameRow
  | .badCustomers =>
    let limit ← Param.intAt params 0
    return (← shop.rarestBuyers limit).map nameRow
  | .weekdayCount =>
    let start ← Param.dateAt params 0
    let finish ← Param.dateAt params 1
    return [[.int (Int64.ofNat (weekdaysBetween start finish))]]
  | .customerExpenses =>
    let start ← Param.dateAt params 0
    let finish ← Param.dateAt params 1
    return (← shop.weekdaySpending start finish).map fun s => nameRow s.1 ++ [.int s.2]

def execute (shop : Shop) (statement : Statement) : Except Error QueryResult :=
  match shop.rows statement with
  | .ok rows => .ok ⟨statement.template.columns, rows⟩
  | .error fault => .error fault.error

/-- A shop as a database. No statement changes it. -/
def database : Database Shop where
  answer statement shop := (shop.execute statement, shop)

end Shop

end ShopQuery
