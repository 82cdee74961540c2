import Mathlib.Data.Int.ConditionallyCompleteOrder
import Mathlib.Data.Int.Interval
import Mathlib.Data.Set.Card
import ShopQuery.Calendar.Date

/-!
# Dates and day numbers

The dates of the calendar are its day numbers from the first to the last: no two dates share a
number (`dayNumber_injective`), and no number between is left out (`exists_dayNumber_eq`). So dates
can be counted by counting numbers, their order is that of their years, months and days
(`le_iff_civil`), and the day after has the next number (`next?_eq_some_iff`).

## How the proof goes

A day number is a sum of three parts: the days before the year, those before the month within the
year, and the day of the month. Each part is bounded by the length of the next greater one
(`daysBeforeMonth_thirteen`, `daysBeforeYear_succ`). So a date of an earlier year ends before a
later year begins, and the same holds of months within a year. Injectivity and the order both follow
from these two comparisons, by trichotomy on years and then on months; days are then equal, or
compared, by arithmetic.

That no number is left out is an induction from the first number on. Its step is `next?`, which
follows the three cases of a calendar: the next day of the month, the first day of the next month,
the first day of the next year. Only the last date has no next one, which is why the statements
about `next?` leave it out and why the bound `n ≤ last.dayNumber` cannot be dropped.

The years go far below zero. Divisions round down, so that the pattern of leap years has no break
there and none of the lemmas needs a case for the sign.
-/

namespace ShopQuery

/-! ## 1. Years and months -/

/-- The length of a year. The eight cases are the ways in which 4, 100 and 400 can divide it or not.
-/
theorem daysBeforeYear_succ (year : Int) :
    daysBeforeYear (year + 1) = daysBeforeYear year + (if isLeapYear year then 366 else 365) := by
  unfold daysBeforeYear isLeapYear
  by_cases h4 : year % 4 = 0 <;> by_cases h100 : year % 100 = 0 <;>
    by_cases h400 : year % 400 = 0 <;> simp [h4, h100, h400] <;> omega

/-- A later year begins after the whole of an earlier one. -/
theorem daysBeforeYear_succ_le {year later : Int} (h : year < later) :
    daysBeforeYear (year + 1) ≤ daysBeforeYear later := by
  simp only [daysBeforeYear]
  omega

/-- The length of a month. Months count from one. -/
theorem daysBeforeMonth_succ (year : Int) {month : Nat} (h : 1 ≤ month) :
    daysBeforeMonth year (month + 1) = daysBeforeMonth year month + daysInMonth year month := by
  obtain ⟨month, rfl⟩ := Nat.exists_eq_add_of_le' h
  rfl

/-- A later month begins after the whole of an earlier one. -/
theorem daysBeforeMonth_succ_le (year : Int) {month later : Nat} (h : 1 ≤ month)
    (hlater : month < later) :
    daysBeforeMonth year (month + 1) ≤ daysBeforeMonth year later := by
  induction later, hlater using Nat.le_induction with
  | base => exact Nat.le_refl _
  | succ later hlater ih =>
    have hsucc := daysBeforeMonth_succ year (show 1 ≤ later by omega)
    omega

/-- Twelve months make a year. -/
theorem daysBeforeMonth_thirteen (year : Int) :
    daysBeforeMonth year 13 = if isLeapYear year then 366 else 365 := by
  by_cases h : isLeapYear year <;> simp [daysBeforeMonth, daysInMonth, h]

theorem daysInMonth_le (year : Int) (month : Nat) : daysInMonth year month ≤ 31 := by
  unfold daysInMonth
  split
  · split <;> omega
  all_goals omega

/-- The rule of leap years, by divisibility. -/
theorem isLeapYear_iff {year : Int} :
    isLeapYear year = true ↔ 4 ∣ year ∧ (100 ∣ year → 400 ∣ year) := by
  simp only [isLeapYear, Bool.and_eq_true, Bool.or_eq_true, decide_eq_true_eq, bne_iff_ne]
  omega

namespace Date

/-- A day of the Gregorian calendar: of a month from one to twelve, and within that month. The 29th
of February is a day of the years that four divides, unless a hundred does and four hundred does
not. -/
structure InCalendar (year : Int) (month day : Nat) : Prop where
  month_range : 1 ≤ month ∧ month ≤ 12
  day_range : 1 ≤ day ∧ day ≤ 31
  short_month : month ∈ [4, 6, 9, 11] → day ≤ 30
  february : month = 2 → day ≤ 29 ∧ (day = 29 → 4 ∣ year ∧ (100 ∣ year → 400 ∣ year))

/-- The rules of the calendar, month by month, are what `daysInMonth` counts. -/
theorem inCalendar_iff {year : Int} {month day : Nat} :
    InCalendar year month day ↔
      (1 ≤ month ∧ month ≤ 12) ∧ 1 ≤ day ∧ day ≤ daysInMonth year month := by
  have hlast := daysInMonth_le year month
  have hfebruary : daysInMonth year 2 = if isLeapYear year then 29 else 28 := rfl
  constructor
  · rintro ⟨hmonth, hday, hshort, hleap⟩
    refine ⟨hmonth, hday.1, ?_⟩
    rw [← isLeapYear_iff] at hleap
    unfold daysInMonth
    split
    · have := hleap rfl
      split
      · omega
      · rename_i hcommon
        have : day ≠ 29 := fun h => hcommon (this.2 h)
        omega
    -- The four short months, and then all others.
    iterate 4 exact hshort (by simp)
    exact hday.2
  · rintro ⟨hmonth, hday⟩
    refine ⟨hmonth, by omega, fun hshort => ?_, fun hfeb => ?_⟩
    · simp only [List.mem_cons, List.not_mem_nil, or_false] at hshort
      rcases hshort with rfl | rfl | rfl | rfl <;> exact hday.2
    · subst hfeb
      rw [hfebruary] at hday
      rw [← isLeapYear_iff]
      split at hday
      · rename_i hleap
        exact ⟨by omega, fun _ => hleap⟩
      · exact ⟨by omega, fun h => by omega⟩

theorem le_def {a b : Date} : a ≤ b ↔ a.dayNumber ≤ b.dayNumber := Iff.rfl

/-! ## 2. No two dates share a number -/

/-- A date lies behind all days before its year. -/
theorem daysBeforeYear_lt_dayNumber (d : Date) : daysBeforeYear d.year < d.dayNumber := by
  have := d.day_range.1
  unfold dayNumber
  omega

/-- A date lies before the next year begins. -/
theorem dayNumber_le_daysBeforeYear_succ (d : Date) :
    d.dayNumber ≤ daysBeforeYear (d.year + 1) := by
  have hday := d.day_range.2
  have hmonth := daysBeforeMonth_succ d.year d.month_range.1
  have hyear : daysBeforeMonth d.year (d.month + 1) ≤ daysBeforeMonth d.year 13 :=
    daysBeforeMonth_succ_le d.year d.month_range.1 (by have := d.month_range.2; omega)
  rw [daysBeforeMonth_thirteen] at hyear
  rw [daysBeforeYear_succ]
  unfold dayNumber
  split at hyear <;> simp_all <;> omega

/-- A date of an earlier year has a smaller number. -/
theorem dayNumber_lt_of_year_lt {a b : Date} (h : a.year < b.year) :
    a.dayNumber < b.dayNumber := by
  have ha := a.dayNumber_le_daysBeforeYear_succ
  have hb := b.daysBeforeYear_lt_dayNumber
  have hyears := daysBeforeYear_succ_le h
  omega

/-- A date of an earlier month of the same year has a smaller number. -/
theorem dayNumber_lt_of_month_lt {a b : Date} (hyear : a.year = b.year) (h : a.month < b.month) :
    a.dayNumber < b.dayNumber := by
  have hday := a.day_range.2
  have hmonth := daysBeforeMonth_succ a.year a.month_range.1
  have hmonths := daysBeforeMonth_succ_le a.year a.month_range.1 h
  have hb := b.day_range.1
  unfold dayNumber
  rw [← hyear]
  omega

/-- **No two dates share a day number.** -/
theorem dayNumber_injective : Function.Injective dayNumber := by
  intro a b h
  -- Year by year and then month by month: an earlier one has smaller numbers throughout.
  have hyear : a.year = b.year := by
    rcases Int.lt_trichotomy a.year b.year with hlt | heq | hlt
    · have := dayNumber_lt_of_year_lt hlt
      omega
    · exact heq
    · have := dayNumber_lt_of_year_lt hlt
      omega
  have hmonth : a.month = b.month := by
    rcases Nat.lt_trichotomy a.month b.month with hlt | heq | hlt
    · have := dayNumber_lt_of_month_lt hyear hlt
      omega
    · exact heq
    · have := dayNumber_lt_of_month_lt hyear.symm hlt
      omega
  have hday : a.day = b.day := by
    unfold dayNumber at h
    rw [hyear, hmonth] at h
    omega
  obtain ⟨_, _, _, _, _, _⟩ := a
  obtain ⟨_, _, _, _, _, _⟩ := b
  simp_all

/-- Dates are compared by year, then by month, then by day. -/
theorem le_iff_civil {a b : Date} :
    a ≤ b ↔ a.year < b.year ∨ a.year = b.year ∧
      (a.month < b.month ∨ a.month = b.month ∧ a.day ≤ b.day) := by
  rw [le_def]
  rcases Int.lt_trichotomy a.year b.year with hyear | hyear | hyear
  · have := dayNumber_lt_of_year_lt hyear
    omega
  · rcases Nat.lt_trichotomy a.month b.month with hmonth | hmonth | hmonth
    · have := dayNumber_lt_of_month_lt hyear hmonth
      omega
    · have hnumbers : a.dayNumber ≤ b.dayNumber ↔ a.day ≤ b.day := by
        unfold dayNumber
        rw [hyear, hmonth]
        omega
      omega
    · have := dayNumber_lt_of_month_lt hyear.symm hmonth
      omega
  · have := dayNumber_lt_of_year_lt hyear
    omega

/-! ## 3. No number is left out -/

/-- The day after: the next day of the month, or else the first of the next month, or else the first
day of the next year. -/
def next? (d : Date) : Option Date :=
  if d.day < daysInMonth d.year d.month then ofCivil? d.year d.month (d.day + 1)
  else if d.month < 12 then ofCivil? d.year (d.month + 1) 1
  else ofCivil? (d.year + 1) 1 1

theorem one_le_daysInMonth (year : Int) (month : Nat) : 1 ≤ daysInMonth year month := by
  unfold daysInMonth
  split
  · split <;> omega
  all_goals omega

/-- Every date but the last has a next one. -/
theorem exists_next?_of_ne_last {d : Date} (h : d ≠ last) :
    ∃ next, d.next? = some next ∧ next.dayNumber = d.dayNumber + 1 := by
  obtain ⟨year, month, day, hyear, hmonth, hday⟩ := d
  -- Inside a month, at the end of a month and at the end of a year, as the next day is found.
  by_cases hend : day < daysInMonth year month
  · have hnext : 1 ≤ day + 1 ∧ day + 1 ≤ daysInMonth year month := by omega
    refine ⟨⟨year, month, day + 1, hyear, hmonth, hnext⟩, ?_, ?_⟩
    · simp [next?, ofCivil?, hend, hyear, hmonth, hnext.2]
    · simp only [dayNumber]
      omega
  by_cases hdecember : month < 12
  · have hnext : 1 ≤ month + 1 ∧ month + 1 ≤ 12 := by omega
    have hfirst := one_le_daysInMonth year (month + 1)
    refine ⟨⟨year, month + 1, 1, hyear, hnext, by omega⟩, ?_, ?_⟩
    · simp [next?, ofCivil?, hend, hdecember, hyear, hnext.2, hfirst]
    · simp only [dayNumber, daysBeforeMonth_succ year hmonth.1]
      omega
  · have hm : month = 12 := by omega
    subst hm
    have h31 : day = 31 := by simp only [daysInMonth] at hday hend; omega
    subst h31
    -- The last day of a year is 31 December, and only that of the last year has no next one.
    by_cases hlast : year < 262142
    · have hnext : -262143 ≤ year + 1 ∧ year + 1 ≤ 262142 := by omega
      have hfirst := one_le_daysInMonth (year + 1) 1
      refine ⟨⟨year + 1, 1, 1, hnext, by omega, by omega⟩, ?_, ?_⟩
      · simp [next?, ofCivil?, hend, hnext, hfirst]
      · have hlength := daysBeforeMonth_thirteen year
        rw [daysBeforeMonth_succ year (by omega), show daysInMonth year 12 = 31 from rfl] at hlength
        simp only [dayNumber, daysBeforeYear_succ, show daysBeforeMonth (year + 1) 1 = 0 from rfl]
        split at hlength <;> simp_all <;> omega
    · have hy : year = 262142 := by omega
      subst hy
      exact absurd rfl h

/-- **No number between the first date and the last is left out.** By induction from the first on.
-/
theorem exists_dayNumber_eq {n : Int} (hfirst : first.dayNumber ≤ n)
    (hlast : n ≤ last.dayNumber) : ∃ d : Date, d.dayNumber = n := by
  induction n, hfirst using Int.leInduction with
  | base => exact ⟨first, rfl⟩
  | succ n hn ih =>
    obtain ⟨d, hd⟩ := ih (by omega)
    have hne : d ≠ last := by
      rintro rfl
      omega
    obtain ⟨next, -, hnext⟩ := exists_next?_of_ne_last hne
    exact ⟨next, by omega⟩

theorem first_le (d : Date) : first ≤ d := by
  rw [le_def]
  rcases Int.lt_or_eq_of_le d.year_range.1 with h | h
  · exact (dayNumber_lt_of_year_lt (a := first) h).le
  · have := d.daysBeforeYear_lt_dayNumber
    rw [← h] at this
    exact this

theorem le_last (d : Date) : d ≤ last := by
  have hyear : daysBeforeYear (d.year + 1) ≤ daysBeforeYear 262143 :=
    daysBeforeYear_succ_le (by have := d.year_range.2; omega)
  exact d.dayNumber_le_daysBeforeYear_succ.trans hyear

@[simp] theorem next?_last : last.next? = none := rfl

/-- The day after has the next number, and is the only date that has it. -/
theorem next?_eq_some_iff {d next : Date} :
    d.next? = some next ↔ next.dayNumber = d.dayNumber + 1 := by
  constructor
  · intro h
    have hne : d ≠ last := by
      rintro rfl
      simp at h
    obtain ⟨other, hother, hnumber⟩ := exists_next?_of_ne_last hne
    rwa [Option.some.inj (h.symm.trans hother)]
  · intro h
    have hne : d ≠ last := by
      rintro rfl
      have := le_def.mp (le_last next)
      omega
    obtain ⟨other, hother, hnumber⟩ := exists_next?_of_ne_last hne
    rw [hother, dayNumber_injective (hnumber.trans h.symm)]

/-- The calendar ends with its last date alone. -/
theorem next?_eq_none_iff {d : Date} : d.next? = none ↔ d = last := by
  constructor
  · intro h
    by_contra hne
    obtain ⟨other, hother, -⟩ := exists_next?_of_ne_last hne
    rw [h] at hother
    cases hother
  · rintro rfl
    exact next?_last

end Date

end ShopQuery
