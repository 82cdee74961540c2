import ShopQuery.Query.Fault

/-!
# Query results

A table with named columns, and typed access to its cells.

A cell is looked up by the name of its column; the first column of a name counts. A column that
does not exist is reported before the row is looked at.
-/

namespace ShopQuery

inductive Cell where
  | null
  | int (value : Int64)
  | text (value : String)
deriving DecidableEq, Repr

def Cell.display : Cell → String
  | .null => "NULL"
  | .int n => toString n.toInt
  | .text s => s

abbrev Row := List Cell

structure QueryResult where
  columns : List String
  rows : List Row
deriving DecidableEq, Repr

namespace QueryResult

/-- The position of the first column of a name. -/
def columnIndex (result : QueryResult) (name : String) : Except QueryFault Nat :=
  match result.columns.findIdx? (· == name) with
  | some i => .ok i
  | none => .error (.noColumn name)

/-- The fault of a cell that is missing or of another type. -/
def unexpected (column : String) (expected : CellType) (found : Option Cell) : QueryFault :=
  .cellType column expected ((found.map Cell.display).getD "nothing")

def text (result : QueryResult) (row : Row) (column : String) : Except QueryFault String := do
  let i ← result.columnIndex column
  match row[i]? with
  | some (.text s) => return s
  | other => throw (unexpected column .text other)

def int (result : QueryResult) (row : Row) (column : String) : Except QueryFault Int64 := do
  let i ← result.columnIndex column
  match row[i]? with
  | some (.int n) => return n
  | other => throw (unexpected column .integer other)

end QueryResult

end ShopQuery
