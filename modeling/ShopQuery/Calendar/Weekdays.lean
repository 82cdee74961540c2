import ShopQuery.Calendar.Date

/-!
# Counting weekdays

The number of days from Monday to Friday in a range of dates.

## Closed form

`weekdaysBefore` counts the weekdays below a day number in whole weeks of five and a partial week,
so that a range is counted by one subtraction, however long it is.

## The end of the calendar

A range is walked from its start, and a step is taken only to a day that has a successor. So the
last date of the calendar is never counted.
-/

namespace ShopQuery

/-- The weekdays from day number one up to below `n`; negative for days before that. -/
def weekdaysBefore (n : Int) : Int := 5 * ((n - 1) / 7) + min ((n - 1) % 7) 5

/-- The weekdays with a day number from `low` up to below `high`. -/
def weekdaysIn (low high : Int) : Nat :=
  if low ≤ high then (weekdaysBefore high - weekdaysBefore low).toNat else 0

/-- The weekdays from a date to a date, both included; none where the dates are not in order. -/
def weekdaysBetween (start finish : Date) : Nat :=
  weekdaysIn start.dayNumber (min (finish.dayNumber + 1) Date.last.dayNumber)

end ShopQuery
