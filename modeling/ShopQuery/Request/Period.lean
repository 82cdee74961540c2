import ShopQuery.Calendar.DateText
import ShopQuery.Error
import ShopQuery.Json.Basic

/-!
# Periods

A statistics request names a first and a last day. Both have to be there before either is read,
both have to be dates before they are compared, and the first may not be after the last.
-/

namespace ShopQuery

/-- A closed range of days. -/
structure Period where
  start : Date
  finish : Date
  ordered : start ≤ finish
deriving Repr

namespace Period

/-- The text of a bound in a request. -/
def boundText (request : Json) (field : DateField) : Except Error String :=
  match (request.member? field.key).bind Json.string? with
  | some s => .ok s
  | none => .error (.missingDateField field)

def readBound (raw : String) : Except Error Date :=
  (Date.read raw).mapError fun fault =>
    .invalidDateFormat s!"Unparseable date: \"{raw}\" ({fault.message})"

/-- The period of two days, if they are in order. -/
def ofBounds (start finish : Date) : Except Error Period :=
  if ordered : start ≤ finish then .ok ⟨start, finish, ordered⟩ else .error .invalidDateRange

def ofRequest (request : Json) : Except Error Period := do
  let rawStart ← boundText request .start
  let rawFinish ← boundText request .finish
  let start ← readBound rawStart
  let finish ← readBound rawFinish
  ofBounds start finish

end Period

end ShopQuery
