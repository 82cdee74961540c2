import Mathlib.Computability.StateTransition
import ShopQuery.Proofs.Calendar.Weekdays

/-!
# Walking from day to day

Weekdays can be counted one by one. A walk stands on a day and moves on to the day after as long as
there is one and the finish is not passed; what it leaves behind is counted. Every walk stops, with
the count that the closed form has (`Walk.exists_eval_walk`).

The count of a range is the sum of the counts of its two parts wherever it is cut, and every seven
days have five weekdays (`weekdaysBetween_additive_and_periodic`). Neither is clear at the end of
the calendar, whose last date no walk leaves behind: a range can only be cut before it, and the
seven days must not reach it.

## How the proof goes

The walk is a state machine (`Walk.step?`), and its run is that of Mathlib's `StateTransition`. Two
facts give its result:

* the invariant: what is counted and what the closed form still counts ahead add up to the same
  before and after a step (`counted_add_of_step?`), so along every run (`counted_add_of_reaches`);
* the end: where no step is left, the closed form counts nothing ahead
  (`weekdaysBetween_of_step?_eq_none`).

That a walk stops at all is an induction on the days that are left of the calendar, not of the
range: a walk whose finish lies behind it stops at once, but no measure of the range says so without
a case.

## The side conditions

A cut needs `¬ finish ≤ middle`, so that a day is left behind the cut. If the cut were behind the
last day, the second part would begin with the day after the range, which the calendar may not have.
A week needs the day behind it (`start.later? 7`) for the same reason: the week that ends with the
last date of the calendar counts four.
-/

namespace ShopQuery

/-! ## 1. Days later -/

namespace Date

/-- The date a number of days later, if the calendar has it. -/
def later? (d : Date) : Nat → Option Date
  | 0 => some d
  | n + 1 => (d.later? n).bind next?

/-- A number of days later means a day number greater by that. By induction on the number of days;
the days between exist, as no number is left out. -/
theorem later?_eq_some_iff {d later : Date} {n : Nat} :
    d.later? n = some later ↔ later.dayNumber = d.dayNumber + n := by
  induction n generalizing later with
  | zero =>
    simp only [later?, Option.some.injEq, Nat.cast_zero, add_zero]
    exact ⟨fun h => h ▸ rfl, fun h => (dayNumber_injective h).symm⟩
  | succ n ih =>
    simp only [later?, Option.bind_eq_some_iff, ih, next?_eq_some_iff, Nat.cast_succ]
    constructor
    · rintro ⟨before, hbefore, hlater⟩
      omega
    · intro h
      have hfirst := le_def.mp (first_le d)
      have hlast := le_def.mp (le_last later)
      obtain ⟨before, hbefore⟩ := exists_dayNumber_eq (n := d.dayNumber + n) (by omega) (by omega)
      exact ⟨before, hbefore, by omega⟩

end Date

/-! ## 2. Ranges of dates -/

section

variable {start middle finish next : Date}

/-- Dates that are not in order have nothing between them. -/
theorem weekdaysBetween_of_not_le (h : ¬ start ≤ finish) : weekdaysBetween start finish = 0 := by
  rw [Date.le_def] at h
  exact weekdaysIn_of_le (by omega)

/-- A range is cut behind a day that is not its last one. -/
theorem weekdaysBetween_cut (hstart : start ≤ middle) (hnext : middle.next? = some next)
    (hfinish : next ≤ finish) :
    weekdaysBetween start finish = weekdaysBetween start middle + weekdaysBetween next finish := by
  have hlast := Date.le_def.mp (Date.le_last finish)
  rw [Date.le_def] at hstart hfinish
  rw [Date.next?_eq_some_iff] at hnext
  unfold weekdaysBetween
  rw [min_eq_left (show middle.dayNumber + 1 ≤ Date.last.dayNumber by omega), hnext]
  exact (weekdaysIn_add (by omega) (by omega)).symm

/-- One day that has a next one is counted as what it is. -/
theorem weekdaysBetween_self (hnext : start.next? = some next) :
    weekdaysBetween start start = if start.isWeekday then 1 else 0 := by
  have hlast := Date.le_def.mp (Date.le_last next)
  rw [Date.next?_eq_some_iff] at hnext
  unfold weekdaysBetween
  rw [min_eq_left (by omega), weekdaysIn_one]
  simp only [Date.isWeekday_iff]

/-- The first day is counted apart from the others. -/
theorem weekdaysBetween_next (hstart : start ≤ finish) (hnext : start.next? = some next) :
    weekdaysBetween start finish =
      (if start.isWeekday then 1 else 0) + weekdaysBetween next finish := by
  rw [← weekdaysBetween_self hnext]
  by_cases hfinish : next ≤ finish
  · exact weekdaysBetween_cut (le_refl start.dayNumber) hnext hfinish
  · have hsame : finish = start := by
      rw [Date.next?_eq_some_iff] at hnext
      rw [Date.le_def] at hstart hfinish
      exact Date.dayNumber_injective (by omega)
    rw [hsame] at hfinish ⊢
    rw [weekdaysBetween_of_not_le hfinish, Nat.add_zero]

/-- The last date of the calendar is not counted. -/
theorem weekdaysBetween_last (finish : Date) : weekdaysBetween Date.last finish = 0 :=
  weekdaysIn_of_le (min_le_right _ _)

end

/-! ## 3. Walks -/

/-- A walk from day to day: where it stands, and how many weekdays it has left behind. -/
structure Walk where
  day : Date
  counted : Nat
deriving DecidableEq, Repr

namespace Walk

/-- Moves on to the day after, and counts the day that is left if it is a weekday. There has to be a
day after, and the finish may not be passed. -/
def step? (finish : Date) (walk : Walk) : Option Walk := do
  let next ← walk.day.next?
  if walk.day ≤ finish then
    some ⟨next, walk.counted + (if walk.day.isWeekday then 1 else 0)⟩
  else none

variable {finish : Date} {walk moved : Walk}

/-- What one step does: it moves on by one day and counts the day it leaves. -/
theorem step?_eq_some_iff :
    walk.step? finish = some moved ↔
      walk.day.next? = some moved.day ∧ walk.day ≤ finish ∧
        moved.counted = walk.counted + (if walk.day.isWeekday then 1 else 0) := by
  obtain ⟨day, counted⟩ := moved
  simp only [step?, Option.bind_eq_bind, Option.bind_eq_some_iff, Option.ite_none_right_eq_some,
    Option.some.injEq, Walk.mk.injEq]
  constructor
  · rintro ⟨next, hnext, hle, rfl, rfl⟩
    exact ⟨hnext, hle, rfl⟩
  · rintro ⟨hnext, hle, rfl⟩
    exact ⟨day, hnext, hle, rfl, rfl⟩

/-- A walk stops at the end of the calendar or behind its finish. -/
theorem step?_eq_none_iff :
    walk.step? finish = none ↔ walk.day = Date.last ∨ ¬ walk.day ≤ finish := by
  rw [← Date.next?_eq_none_iff]
  cases hnext : walk.day.next? <;> simp [step?, hnext]

/-- **What is counted and what is still to come add up to the same after every step.** -/
theorem counted_add_of_step? (h : walk.step? finish = some moved) :
    moved.counted + weekdaysBetween moved.day finish =
      walk.counted + weekdaysBetween walk.day finish := by
  obtain ⟨hnext, hle, hcounted⟩ := step?_eq_some_iff.mp h
  rw [weekdaysBetween_next hle hnext, hcounted]
  omega

/-- Where a walk stops, nothing is still to come. -/
theorem weekdaysBetween_of_step?_eq_none (h : walk.step? finish = none) :
    weekdaysBetween walk.day finish = 0 := by
  rcases step?_eq_none_iff.mp h with hlast | hpassed
  · rw [hlast]
    exact weekdaysBetween_last finish
  · exact weekdaysBetween_of_not_le hpassed

/-- So it is in every place that a walk comes to. -/
theorem counted_add_of_reaches (h : StateTransition.Reaches (step? finish) walk moved) :
    moved.counted + weekdaysBetween moved.day finish =
      walk.counted + weekdaysBetween walk.day finish := by
  induction h with
  | refl => rfl
  | tail _ hstep ih => rw [counted_add_of_step? hstep, ih]

/-- **Every walk stops.** The induction is on the days that are left of the calendar. -/
theorem exists_mem_eval (finish : Date) (walk : Walk) :
    ∃ stop, stop ∈ StateTransition.eval (step? finish) walk := by
  induction hdays : (Date.last.dayNumber - walk.day.dayNumber).toNat using Nat.strongRecOn
    generalizing walk with
  | ind days ih =>
    cases hstep : walk.step? finish with
    | none => exact ⟨walk, StateTransition.mem_eval.mpr ⟨.refl, hstep⟩⟩
    | some moved =>
      -- A step goes one day on, so fewer days are left.
      have hmoved := Date.next?_eq_some_iff.mp (step?_eq_some_iff.mp hstep).1
      have hlast := Date.le_def.mp (Date.le_last moved.day)
      obtain ⟨stop, hstop⟩ := ih _ (by omega) moved rfl
      obtain ⟨hreaches, hnone⟩ := StateTransition.mem_eval.mp hstop
      exact ⟨stop, StateTransition.mem_eval.mpr ⟨.head hstep hreaches, hnone⟩⟩

/-- **A walk that begins with nothing counted stops with the weekdays of its range.** -/
theorem exists_eval_walk (start finish : Date) :
    ∃ stop, StateTransition.eval (step? finish) ⟨start, 0⟩ = Part.some stop ∧
      stop.counted = weekdaysBetween start finish := by
  obtain ⟨stop, hstop⟩ := exists_mem_eval finish ⟨start, 0⟩
  obtain ⟨hreaches, hnone⟩ := StateTransition.mem_eval.mp hstop
  have hcounted := counted_add_of_reaches hreaches
  rw [weekdaysBetween_of_step?_eq_none hnone] at hcounted
  exact ⟨stop, Part.eq_some_iff.mpr hstop, by simpa using hcounted⟩

end Walk

/-! ## 4. Cuts and weeks -/

/-- A range is cut behind any day of it but its last. -/
theorem exists_weekdaysBetween_cut {start middle finish : Date} (hstart : start ≤ middle)
    (hfinish : ¬ finish ≤ middle) :
    ∃ next, middle.next? = some next ∧
      weekdaysBetween start finish =
        weekdaysBetween start middle + weekdaysBetween next finish := by
  have hne : middle ≠ Date.last := by
    rintro rfl
    exact hfinish (Date.le_last finish)
  obtain ⟨next, hnext, hnumber⟩ := Date.exists_next?_of_ne_last hne
  rw [Date.le_def] at hfinish
  exact ⟨next, hnext, weekdaysBetween_cut hstart hnext (Date.le_def.mpr (by omega))⟩

/-- Seven days have five weekdays, as long as there is a day behind them. -/
theorem exists_weekdaysBetween_week {start week : Date} (h : start.later? 7 = some week) :
    ∃ finish, start.later? 6 = some finish ∧ weekdaysBetween start finish = 5 := by
  have hweek := Date.later?_eq_some_iff.mp h
  have hfirst := Date.le_def.mp (Date.first_le start)
  have hlast := Date.le_def.mp (Date.le_last week)
  obtain ⟨finish, hfinish⟩ :=
    Date.exists_dayNumber_eq (n := start.dayNumber + 6) (by omega) (by omega)
  refine ⟨finish, Date.later?_eq_some_iff.mpr hfinish, ?_⟩
  unfold weekdaysBetween
  rw [hfinish, min_eq_left (by omega), add_assoc]
  exact weekdaysIn_week start.dayNumber

/-- **Counting weekdays is additive and periodic.** A range counts as much as its two parts, every
seven days that a day follows count five, dates that are not in order count nothing, and the walk
that counts the days one by one stops with that count for any two dates. -/
theorem weekdaysBetween_additive_and_periodic :
    (∀ start middle finish : Date, start ≤ middle → ¬ finish ≤ middle →
      ∃ next, middle.next? = some next ∧
        weekdaysBetween start finish =
          weekdaysBetween start middle + weekdaysBetween next finish) ∧
    (∀ start week : Date, start.later? 7 = some week →
      ∃ finish, start.later? 6 = some finish ∧ weekdaysBetween start finish = 5) ∧
    (∀ start finish : Date, ¬ start ≤ finish → weekdaysBetween start finish = 0) ∧
    ∀ start finish : Date,
      ∃ stop, StateTransition.eval (Walk.step? finish) ⟨start, 0⟩ = Part.some stop ∧
        stop.counted = weekdaysBetween start finish := by
  refine ⟨?cut, ?week, ?disordered, Walk.exists_eval_walk⟩
  case cut => exact fun start middle finish hstart hfinish =>
    exists_weekdaysBetween_cut hstart hfinish
  case week => exact fun start week h => exists_weekdaysBetween_week h
  case disordered => exact fun start finish h => weekdaysBetween_of_not_le h

/-- The week from 2000-02-24 ends on the first of March, and is cut behind its leap day. -/
theorem weekdaysBetween_leap_week :
    ∃ start leapDay next finish : Date,
      Date.ofCivil? 2000 2 24 = some start ∧ Date.ofCivil? 2000 2 29 = some leapDay ∧
      Date.ofCivil? 2000 3 1 = some finish ∧ start.later? 6 = some finish ∧
      leapDay.next? = some next ∧ weekdaysBetween start finish = 5 ∧
      weekdaysBetween start leapDay + weekdaysBetween next finish = 5 := by
  let start : Date := ⟨2000, 2, 24, by decide, by decide, by decide⟩
  let leapDay : Date := ⟨2000, 2, 29, by decide, by decide, by decide⟩
  let finish : Date := ⟨2000, 3, 1, by decide, by decide, by decide⟩
  obtain ⟨hcut, hweek, -⟩ := weekdaysBetween_additive_and_periodic
  obtain ⟨next, hnext, hsum⟩ := hcut start leapDay finish (by decide) (by decide)
  obtain ⟨last, hlast, hfive⟩ := hweek start ⟨2000, 3, 2, by decide, by decide, by decide⟩ rfl
  have hfinish : last = finish := Option.some.inj (hlast.symm.trans rfl)
  rw [hfinish] at hlast hfive
  exact ⟨start, leapDay, next, finish, rfl, rfl, rfl, hlast, hnext, hfive, hsum ▸ hfive⟩

end ShopQuery
