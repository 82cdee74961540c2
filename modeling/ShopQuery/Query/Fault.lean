import ShopQuery.Error
import ShopQuery.Query.Statement

/-!
# Faults of queries

What goes wrong between a statement and the values that are read from its result: parameters that
do not suit the template, limits and totals out of range, and results that lack what is asked of
them.
-/

namespace ShopQuery

/-- The type that a template reads at a position. -/
inductive ParamType where
  | text
  | integer
  | date
deriving DecidableEq, Repr

def ParamType.name : ParamType → String
  | .text => "text"
  | .integer => "integer"
  | .date => "date"

inductive CellType where
  | text
  | integer
deriving DecidableEq, Repr

def CellType.name : CellType → String
  | .text => "text"
  | .integer => "integer"

/-- Why a query, or the reading of its result, fails. Positions count from zero. -/
inductive QueryFault where
  | noParameter (position : Nat)
  | parameterType (position : Nat) (expected : ParamType) (found : Param)
  | negativeLimit
  | bigintOutOfRange
  | noColumn (name : String)
  | cellType (column : String) (expected : CellType) (found : String)
  | noWeekdayRows
deriving DecidableEq, Repr

namespace QueryFault

/-- The wording of a fault; a message counts positions from one. -/
def message : QueryFault → String
  | .noParameter position => s!"there is no parameter ${position + 1}"
  | .parameterType position expected found =>
    s!"parameter ${position + 1} expected {expected.name}, got {found.display}"
  | .negativeLimit => "LIMIT must not be negative"
  | .bigintOutOfRange => "bigint out of range"
  | .noColumn name => s!"Result has no column '{name}'"
  | .cellType column expected found =>
    s!"Column '{column}' expected {expected.name}, found {found}"
  | .noWeekdayRows => "Weekday count returned no rows"

def error (fault : QueryFault) : Error := .query fault.message

end QueryFault

end ShopQuery
