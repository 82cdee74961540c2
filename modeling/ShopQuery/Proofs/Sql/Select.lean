import Mathlib.Data.List.Dedup
import ShopQuery.Shop.Evaluate

/-!
# Queries and their answers

A query joins tables, groups the joined rows, orders the groups and answers with the first of them.
`Select.text` is how it is written down, `Select.Answers` is what it means: the rows of any order of
its groups that its keys allow. Neither says how a database finds them.

## Joins

An inner join goes through all pairs of a row and a record. A purchase whose customer is not stored
is in no pair; a table that a query does not name has no part in it.

## Groups

Rows are in one group if they agree in the cells by which they are grouped, and no group is empty. A
column has the same cell in all rows of a group if it is one of these, so it is read from the first.
The columns of a query, and the columns among its keys, have to be such; those of
`badCustomers` are.

## Text and meaning

The text is made from the same query as the meaning, and it is the text of the template
(`text_badCustomers`). So what the query is said to mean is said of the very text that a database is
sent.
-/

namespace ShopQuery.Sql

/-! ## 1. Tables -/

inductive Table where
  | customers
  | purchases
deriving DecidableEq, Repr

inductive Column where
  | lastName
  | firstName
  | customerId
  | purchaseCustomer
deriving DecidableEq, Repr

inductive Record where
  | customer (c : Customer)
  | purchase (p : Purchase)
deriving DecidableEq, Repr

def Table.records (shop : Shop) : Table → List Record
  | .customers => shop.customers.map .customer
  | .purchases => shop.purchases.map .purchase

/-- A row of a join: one record of each table, in the order in which they were joined. -/
abbrev JoinedRow := List Record

/-- The cell of a column in a record of its table. -/
def Column.cell? : Column → Record → Option Cell
  | .lastName, .customer c => some (.text c.lastName)
  | .firstName, .customer c => some (.text c.firstName)
  | .customerId, .customer c => some (.int c.id)
  | .purchaseCustomer, .purchase p => some (.int p.customer)
  | _, _ => none

/-- The cell of a column in a row, which is empty where its table is not joined. -/
def Column.cell (column : Column) (row : JoinedRow) : Cell :=
  (row.findSome? column.cell?).getD .null

/-! ## 2. Cells -/

/-- Equality of cells. An empty cell equals nothing. -/
def equals : Cell → Cell → Bool
  | .null, _ => false
  | a, b => a == b

/-- Compares cells of one column: texts by code point, integers by value. -/
def compareCells : Cell → Cell → Ordering
  | .int m, .int n => compare m.toInt n.toInt
  | .text s, .text t => compare s t
  | _, _ => .eq

/-! ## 3. Queries -/

/-- A table to join, and the two columns that must be equal. -/
structure Join where
  table : Table
  left : Column
  right : Column

/-- What groups are ordered by. -/
inductive Key where
  /-- The number of rows. -/
  | count
  /-- A column by which they are grouped. -/
  | column (c : Column)

/-- A query over joined tables. -/
structure Select where
  columns : List Column
  source : Table
  joins : List Join
  groupBy : List Column
  orderBy : List Key
  /-- The parameter that says how many rows are wanted, counted from 1. -/
  limit : Nat

/-! ## 4. Text -/

def Table.text : Table → String
  | .customers => "customers"
  | .purchases => "purchases"

/-- The name of a column, with its table where that is needed. -/
def Column.text : Column → String
  | .lastName => "last_name"
  | .firstName => "first_name"
  | .customerId => "customers.id"
  | .purchaseCustomer => "purchases.customer"

def Join.text (join : Join) : String :=
  "JOIN " ++ join.table.text ++ " ON " ++ join.left.text ++ " = " ++ join.right.text ++ "\n"

def Key.text : Key → String
  | .count => "count(*)"
  | .column c => c.text

def commaSeparated (items : List String) : String := ", ".intercalate items

def Select.text (query : Select) : String :=
  "\nSELECT " ++ commaSeparated (query.columns.map Column.text) ++
    "\nFROM " ++ query.source.text ++ "\n" ++
    String.join (query.joins.map Join.text) ++
    "GROUP BY " ++ commaSeparated (query.groupBy.map Column.text) ++
    "\nORDER BY " ++ commaSeparated (query.orderBy.map Key.text) ++
    "\nLIMIT $" ++ toString query.limit ++ "\n"

/-! ## 5. Answers -/

/-- The rows of a join. -/
def Join.rows (shop : Shop) (rows : List JoinedRow) (join : Join) : List JoinedRow :=
  rows.flatMap fun row =>
    ((join.table.records shop).map fun record => row ++ [record]).filter fun joined =>
      equals (join.left.cell joined) (join.right.cell joined)

/-- The rows of all the joins of a query. -/
def Select.joined (query : Select) (shop : Shop) : List JoinedRow :=
  query.joins.foldl (Join.rows shop) ((query.source.records shop).map ([·]))

/-- The cells by which a row is grouped. -/
def Select.groupCells (query : Select) (row : JoinedRow) : List Cell :=
  query.groupBy.map (·.cell row)

/-- The joined rows, one list for each combination of cells by which they are grouped. -/
def Select.groups (query : Select) (shop : Shop) : List (List JoinedRow) :=
  ((query.joined shop).map query.groupCells).dedup.map fun cells =>
    (query.joined shop).filter fun row => query.groupCells row == cells

/-- The cell of a column in a group, the same in all of its rows. -/
def Column.groupCell (column : Column) (group : List JoinedRow) : Cell :=
  (group.head?.map column.cell).getD .null

def Key.compare (a b : List JoinedRow) : Key → Ordering
  | .count => Ord.compare a.length b.length
  | .column c => compareCells (c.groupCell a) (c.groupCell b)

/-- Compares groups by the keys of a query, the first key first. -/
def Select.compareGroups (query : Select) (a b : List JoinedRow) : Ordering :=
  query.orderBy.foldr (fun key rest => (key.compare a b).then rest) .eq

/-- The rows with which a query may be answered. A negative limit has no answer. -/
def Select.Answers (query : Select) (shop : Shop) (params : List Param) (rows : List Row) : Prop :=
  ∃ limit, Param.intAt params (query.limit - 1) = .ok limit ∧ 0 ≤ limit ∧
    ∃ order : List (List JoinedRow), order.Perm (query.groups shop) ∧
      order.Pairwise (fun a b => (query.compareGroups a b).isLE) ∧
      rows = (order.take limit.toNatClampNeg).map fun group =>
        query.columns.map (·.groupCell group)

/-! ## 6. The customers with the fewest purchases -/

/-- The query for the customers with the fewest purchases. -/
def badCustomers : Select where
  columns := [.lastName, .firstName]
  source := .customers
  joins := [⟨.purchases, .customerId, .purchaseCustomer⟩]
  groupBy := [.lastName, .firstName, .customerId]
  orderBy := [.count, .column .lastName, .column .firstName, .column .customerId]
  limit := 1

/-- The query is what the template says. -/
theorem text_badCustomers : badCustomers.text = Template.badCustomers.sql := by
  decide +kernel

end ShopQuery.Sql
