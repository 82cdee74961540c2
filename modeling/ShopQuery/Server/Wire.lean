import ShopQuery.Number.Bigint
import ShopQuery.Number.Power
import ShopQuery.Query.Result
import ShopQuery.Text.Utf8

/-!
# Rows on the wire

A server names the type of each column when a statement is prepared, and sends the octets of each
cell when it is answered. Octets are read by the type of their column: integers and texts become
cells; whatever cannot be read, and every other type, becomes null.
-/

namespace ShopQuery

inductive ColumnType where
  | int2
  | int4
  | int8
  /-- The types that hold texts: text, varchar, bpchar and name. -/
  | text
  | other
deriving DecidableEq, Repr

/-- The octets of the cells of a row. A cell without octets is null. -/
abbrev WireRow := List (Option (List UInt8))

/-- Rows that a server sends, with the types by which they are read. -/
structure WireTable where
  types : List ColumnType
  rows : List WireRow
deriving DecidableEq, Repr

namespace WireTable

/-- The number of octets of the widest integer. -/
def maxIntegerOctets : Nat := 8

/-- The integer that octets spell in two's complement, the most significant octet first. -/
def integer? (octets : List UInt8) : Option Int :=
  if octets.isEmpty || maxIntegerOctets < octets.length then none
  else
    let n : Nat := octets.foldl (fun n b => n * 256 + b.toNat) 0
    let bits := 8 * octets.length
    some (if n < twoTo (bits - 1) then n else (n : Int) - twoTo bits)

/-- The integer that octets spell, if it fits the bits of its column's type. -/
def integerCell (bits : Nat) (octets : List UInt8) : Cell :=
  match integer? octets with
  | some n =>
    if -(twoTo (bits - 1) : Int) ≤ n ∧ n < twoTo (bits - 1) then .int (Int64.ofInt n) else .null
  | none => .null

def textCell (octets : List UInt8) : Cell :=
  match Utf8.decode octets with
  | .ok text => .text text
  | .error _ => .null

def cell (type : ColumnType) : Option (List UInt8) → Cell
  | none => .null
  | some octets =>
    match type with
    | .int2 => integerCell 16 octets
    | .int4 => integerCell 32 octets
    | .int8 => integerCell 64 octets
    | .text => textCell octets
    | .other => .null

/-- The cells of a row, one for each column. What stands behind the last column is dropped. -/
def row : List ColumnType → WireRow → Row
  | [], _ => []
  | type :: types, octets :: rest => cell type octets :: row types rest
  | _ :: types, [] => .null :: row types []

/-- The result that a table is for a template. Its columns are those of the template. -/
def result (table : WireTable) (template : Template) : QueryResult :=
  ⟨template.columns, table.rows.map (row table.types)⟩

end WireTable

end ShopQuery
