import ShopQuery.Calendar.Weekdays
import ShopQuery.Proofs.Calendar.DayNumber

/-!
# Counted weekdays are weekdays

`weekdaysIn` counts the day numbers of weekdays (`weekdaysIn_eq_card`), so it counts dates
(`ncard_weekdays`). A range that ends with the last date of the calendar is counted one short, as
that date is a weekday; every other range is counted in full (`weekdaysBetween_add_last`).

## How the proof goes

The count of a range is a difference: the weekdays before its end without those before its begin.
That this difference is the size of a set is an induction on the end of the range, and one more day
adds what `weekdaysBefore_succ` says. From there on nothing looks at the closed form again: bounds,
empty ranges and cuts all come from the set, or from the difference as a telescope
(`weekdaysIn_add`).

Numbers become dates along `dayNumber`, which is injective and leaves out nothing within the
calendar. This is where the bounds of the calendar come in: `first_le` and `le_last` keep every
number of a range between them.

The last date is special because the days of a range are walked one by one up to the day after the
last, and the last date of the calendar has none. So the end of the range is cut off at that date
(`min`), and the sum in `weekdaysBetween_add_last` says what is missed: one day, and nothing else.
-/

namespace ShopQuery

/-! ## 1. Day numbers -/

/-- One more day counts if its weekday is one of the first five. -/
theorem weekdaysBefore_succ (n : Int) :
    weekdaysBefore (n + 1) = weekdaysBefore n + (if (n - 1) % 7 < 5 then 1 else 0) := by
  unfold weekdaysBefore
  split <;> omega

/-- The closed form counts, by induction on the end of the range. -/
theorem card_weekday_numbers {low high : Int} (h : low ≤ high) :
    (((Finset.Ico low high).filter fun n => (n - 1) % 7 < 5).card : Int) =
      weekdaysBefore high - weekdaysBefore low := by
  induction high, h using Int.leInduction with
  | base => simp
  | succ high hle ih =>
    have hinsert : Finset.Ico low (high + 1) = insert high (Finset.Ico low high) := by
      ext n
      simp only [Finset.mem_insert, Finset.mem_Ico]
      omega
    rw [weekdaysBefore_succ, hinsert, Finset.filter_insert]
    split
    · rw [Finset.card_insert_of_notMem (by simp)]
      omega
    · omega

/-- **The closed form counts the weekdays of a range**, also where the range is empty. -/
theorem weekdaysIn_eq_card (low high : Int) :
    weekdaysIn low high = ((Finset.Ico low high).filter fun n => (n - 1) % 7 < 5).card := by
  unfold weekdaysIn
  split
  · rename_i h
    have := card_weekday_numbers h
    omega
  · rename_i h
    rw [Finset.Ico_eq_empty (by omega)]
    rfl

/-- No more days are counted than the range has. -/
theorem weekdaysIn_le (low high : Int) : weekdaysIn low high ≤ (high - low).toNat := by
  rw [weekdaysIn_eq_card, ← Int.card_Ico]
  exact Finset.card_filter_le _ _

theorem cast_weekdaysIn {low high : Int} (h : low ≤ high) :
    (weekdaysIn low high : Int) = weekdaysBefore high - weekdaysBefore low := by
  rw [weekdaysIn_eq_card, card_weekday_numbers h]

theorem weekdaysIn_of_le {low high : Int} (h : high ≤ low) : weekdaysIn low high = 0 := by
  rw [weekdaysIn_eq_card, Finset.Ico_eq_empty (by omega)]
  rfl

/-- A range that is cut in two is counted in two. -/
theorem weekdaysIn_add {low middle high : Int} (hlow : low ≤ middle) (hhigh : middle ≤ high) :
    weekdaysIn low middle + weekdaysIn middle high = weekdaysIn low high := by
  have hfirst := cast_weekdaysIn hlow
  have hsecond := cast_weekdaysIn hhigh
  have hwhole := cast_weekdaysIn (hlow.trans hhigh)
  omega

theorem weekdaysIn_one (n : Int) : weekdaysIn n (n + 1) = if (n - 1) % 7 < 5 then 1 else 0 := by
  have hcount := cast_weekdaysIn (show n ≤ n + 1 by omega)
  rw [weekdaysBefore_succ] at hcount
  split at hcount <;> simp_all

/-- One more day adds one if it is a weekday. -/
theorem weekdaysIn_succ {low high : Int} (h : low ≤ high) :
    weekdaysIn low (high + 1) = weekdaysIn low high + (if (high - 1) % 7 < 5 then 1 else 0) := by
  rw [← weekdaysIn_add h (show high ≤ high + 1 by omega), weekdaysIn_one]

/-- A week has five weekdays, wherever it begins. -/
theorem weekdaysIn_week (n : Int) : weekdaysIn n (n + 7) = 5 := by
  have hcount := cast_weekdaysIn (show n ≤ n + 7 by omega)
  unfold weekdaysBefore at hcount
  omega

/-! ## 2. Dates -/

namespace Date

/-- The dates from Monday to Friday in a closed range. -/
def weekdays (start finish : Date) : Set Date :=
  {d | start ≤ d ∧ d ≤ finish ∧ d.isWeekday = true}

/-- Weekdays by their numbers: the first day of the count is a Monday. -/
theorem isWeekday_iff {d : Date} : d.isWeekday = true ↔ (d.dayNumber - 1) % 7 < 5 := by
  simp [isWeekday]

theorem isWeekday_last : last.isWeekday = true := by decide

/-- The weekdays of a range are as many as their day numbers, which lie within the calendar. -/
theorem ncard_weekdays (start finish : Date) :
    (weekdays start finish).ncard = weekdaysIn start.dayNumber (finish.dayNumber + 1) := by
  -- Dates are counted by their numbers: no two share one, and none in the range is left out.
  rw [weekdaysIn_eq_card, ← Set.ncard_coe_finset,
    ← Set.ncard_image_of_injective _ dayNumber_injective]
  congr 1
  ext n
  simp only [Set.mem_image, weekdays, Set.mem_ofPred_eq, Finset.coe_filter, Finset.mem_Ico, le_def,
    isWeekday_iff]
  constructor
  · rintro ⟨d, ⟨hstart, hfinish, hweekday⟩, rfl⟩
    exact ⟨⟨hstart, by omega⟩, hweekday⟩
  · rintro ⟨⟨hstart, hfinish⟩, hweekday⟩
    have hfirst := le_def.mp (first_le start)
    have hlast := le_def.mp (le_last finish)
    obtain ⟨d, rfl⟩ := exists_dayNumber_eq (n := n) (by omega) (by omega)
    exact ⟨d, ⟨hstart, by omega, hweekday⟩, rfl⟩

end Date

/-- Only the last date of the calendar is missed. -/
theorem weekdaysBetween_add_last {start finish : Date} (h : start ≤ finish) :
    weekdaysBetween start finish + (if finish = Date.last then 1 else 0) =
      (Date.weekdays start finish).ncard := by
  rw [Date.ncard_weekdays]
  unfold weekdaysBetween
  have hle := Date.le_def.mp h
  have hlast := Date.le_def.mp (Date.le_last finish)
  split
  · rename_i heq
    subst heq
    rw [weekdaysIn_succ hle, if_pos (Date.isWeekday_iff.mp Date.isWeekday_last)]
    rw [min_eq_right (by omega)]
  · rename_i hne
    have hlt : finish.dayNumber ≠ Date.last.dayNumber := fun heq =>
      hne (Date.dayNumber_injective heq)
    rw [min_eq_left (by omega), Nat.add_zero]

/-- The count is far below the bound of 64-bit integers. -/
theorem toInt_ofNat_weekdaysBetween (start finish : Date) :
    (Int64.ofNat (weekdaysBetween start finish)).toInt = weekdaysBetween start finish := by
  have hle := weekdaysIn_le start.dayNumber (min (finish.dayNumber + 1) Date.last.dayNumber)
  have hfirst := Date.le_def.mp (Date.first_le start)
  have hspan : Date.last.dayNumber - Date.first.dayNumber < 2 ^ 31 := by decide
  have hmin := min_le_right (finish.dayNumber + 1) Date.last.dayNumber
  apply Int64.toInt_ofNat_of_lt
  unfold weekdaysBetween
  omega

end ShopQuery
