import ShopQuery.Proofs.Calendar.Weekdays
import ShopQuery.Proofs.Report.Simulation
import ShopQuery.Proofs.Report.StatReplies
import ShopQuery.Proofs.Shop.Spending

/-!
# Statistics of a shop

What a statistics request comes to over the tables of a shop: the weekdays of its period and what
each customer spent on them (`run_stat_shop`). The weekdays are those on which a purchase counts,
except that the last date of the calendar is not counted (`totalDays_eq_weekdays_iff`).

## How the proof goes

A request with a period asks two statements, and over a shop both have answers that are known: a
single number, and one row for each customer with purchases. Either can be read, so the reading adds
no error (`readReply_weekdayCount`, `readReply_customerExpenses`), and what is left of the general
run is whether the spending adds up.

The number is the closed form of the weekdays between two dates. How it is related to the weekdays
themselves is a fact about the calendar (`weekdaysBetween_add_last`); it fits 64 bits by far, as the
calendar is short. The spending, on the other hand, asks of each purchase whether its own date is a
weekday of the period. So the two figures of a document disagree on the last date of the calendar:
it counts for the one and not for the other.
-/

namespace ShopQuery.Report

open Database

/-! ## 1. The rows of the two statements -/

/-- The expense that a customer's sum is reported as. -/
def expenseOf (sum : Customer × Int64) : CustomerExpense :=
  ⟨sum.1.lastName ++ " " ++ sum.1.firstName, sum.2⟩

/-- A single row has its number. -/
theorem totalDays_singleton (n : Int64) :
    totalDays ⟨Template.weekdayCount.columns, [[.int n]]⟩ = .ok n := rfl

/-- The rows of the spending read as expenses, one by one. -/
theorem customerExpenses_of_sums (sums : List (Customer × Int64)) :
    customerExpenses ⟨Template.customerExpenses.columns,
      sums.map fun s => Shop.nameRow s.1 ++ [.int s.2]⟩ = .ok (sums.map expenseOf) := by
  unfold customerExpenses
  rw [mapM_eq_ok_iff, List.forall₂_map_left_iff, List.forall₂_map_right_iff, List.forall₂_same]
  intro s _
  rfl

/-- The weekdays of a period can be read from a shop's answer. -/
theorem readReply_weekdayCount (shop : Shop) (start finish : Date) :
    readReply totalDays (shop.execute ⟨.weekdayCount, [.date start, .date finish]⟩) =
      .ok (Int64.ofNat (weekdaysBetween start finish)) := by
  rw [Shop.execute_weekdayCount, readReply_ok, totalDays_singleton]
  rfl

/-- So can the spending, unless it does not fit. -/
theorem readReply_customerExpenses (shop : Shop) (start finish : Date) :
    readReply customerExpenses (shop.execute ⟨.customerExpenses, [.date start, .date finish]⟩) =
      match shop.weekdaySpending start finish with
      | .ok sums => .ok (sums.map expenseOf)
      | .error fault => .error fault.error := by
  rw [Shop.execute_customerExpenses]
  cases shop.weekdaySpending start finish with
  | error fault => rfl
  | ok sums =>
    show readReply customerExpenses (.ok _) = _
    rw [readReply_ok, customerExpenses_of_sums]
    rfl

/-! ## 2. The document -/

/-- A shop is asked both statements of a request, which comes to the weekdays of the period and the
spending on them, unless a customer's spending does not fit. -/
theorem run_stat_shop_logged {request : Json} {period : Period}
    (h : Period.ofRequest request = .ok period) (shop : Shop) :
    run (stat Shop.database.logged request) (shop, []) =
      (match shop.weekdaySpending period.start period.finish with
        | .ok sums =>
          .ok (.stat (Int64.ofNat (weekdaysBetween period.start period.finish))
            (sums.map expenseOf))
        | .error fault => .error fault.error,
        shop,
        [⟨.weekdayCount, [.date period.start, .date period.finish]⟩,
          ⟨.customerExpenses, [.date period.start, .date period.finish]⟩]) := by
  have hdays := readReply_weekdayCount shop period.start period.finish
  have hexpenses := readReply_customerExpenses shop period.start period.finish
  rw [run_stat_of_period h rfl rfl]
  dsimp only [Shop.database]
  rw [hdays, hexpenses]
  cases shop.weekdaySpending period.start period.finish with
  | error fault => rfl
  | ok sums => rfl

/-- The same without a log. -/
theorem run_stat_shop {request : Json} {period : Period} (h : Period.ofRequest request = .ok period)
    (shop : Shop) :
    run (stat Shop.database request) shop =
      (match shop.weekdaySpending period.start period.finish with
        | .ok sums =>
          .ok (.stat (Int64.ofNat (weekdaysBetween period.start period.finish))
            (sums.map expenseOf))
        | .error fault => .error fault.error,
        shop) := by
  obtain ⟨houtcome, hstate⟩ :=
    Alike.stat (Alike.logged Shop.database) request (shop, []) shop rfl
  rw [run_stat_shop_logged h] at houtcome hstate
  exact Prod.ext houtcome.symm hstate.symm

/-- A request for the statistics of a period. -/
def requestOf (start finish : String) : Json :=
  .object [(DateField.start.key, .string start), (DateField.finish.key, .string finish)]

/-- Nobody has spent anything in an empty shop. -/
theorem weekdaySpending_empty (start finish : Date) :
    Shop.empty.weekdaySpending start finish = .ok [] := by
  simp [Shop.weekdaySpending, Shop.joined, Shop.empty, Shop.totals, group, Group.ids, pure,
    Except.pure, bind, Except.bind]

/-- A purchase of what is stored counts exactly when its date is a weekday of the period. -/
theorem isSome_joinOne_onWeekdayIn_iff {shop : Shop} {purchase : Purchase}
    (hcustomer : shop.customer? purchase.customer ≠ none)
    (hproduct : shop.product? purchase.product ≠ none) (start finish : Date) :
    (shop.joinOne (fun purchase _ => Shop.onWeekdayIn start finish purchase) purchase).isSome ↔
      purchase.date ∈ Date.weekdays start finish := by
  rw [Shop.isSome_joinOne_iff_countsIn]
  exact ⟨fun hcounts => hcounts.date, fun hdate => ⟨hdate, hcustomer, hproduct⟩⟩

/-- **The weekdays of a period are all counted unless it ends with the last date of the calendar**,
which is a weekday and is missed. They are the dates on which a purchase counts for the spending. -/
theorem totalDays_eq_weekdays_iff {request : Json} {period : Period}
    (h : Period.ofRequest request = .ok period) (shop : Shop) :
    ∃ total : Int64,
      run (stat Shop.database request) shop =
        (match shop.weekdaySpending period.start period.finish with
          | .ok sums => .ok (.stat total (sums.map expenseOf))
          | .error fault => .error fault.error,
          shop) ∧
      total.toInt + (if period.finish = Date.last then 1 else 0) =
        (Date.weekdays period.start period.finish).ncard ∧
      (total.toInt = (Date.weekdays period.start period.finish).ncard ↔
        period.finish ≠ Date.last) ∧
      ∀ purchase : Purchase, shop.customer? purchase.customer ≠ none →
        shop.product? purchase.product ≠ none →
        ((shop.joinOne (fun purchase _ => Shop.onWeekdayIn period.start period.finish purchase)
          purchase).isSome ↔ purchase.date ∈ Date.weekdays period.start period.finish) := by
  refine ⟨Int64.ofNat (weekdaysBetween period.start period.finish), run_stat_shop h shop, ?_, ?_,
    fun purchase hcustomer hproduct =>
      isSome_joinOne_onWeekdayIn_iff hcustomer hproduct period.start period.finish⟩
  · rw [toInt_ofNat_weekdaysBetween, ← weekdaysBetween_add_last period.ordered]
    split <;> simp
  · rw [toInt_ofNat_weekdaysBetween, ← weekdaysBetween_add_last period.ordered]
    split <;> simp_all

/-- A week of May 2024 has five weekdays and is counted in full. -/
theorem totalDays_of_may_week :
    ∃ period, Period.ofRequest (requestOf "2024-05-06" "2024-05-12") = .ok period ∧
      (Date.weekdays period.start period.finish).ncard = 5 ∧
      (run (stat Shop.database (requestOf "2024-05-06" "2024-05-12")) Shop.empty).1 =
        .ok (.stat 5 []) := by
  let period : Period := ⟨⟨2024, 5, 6, by decide, by decide, by decide⟩,
    ⟨2024, 5, 12, by decide, by decide, by decide⟩, by decide⟩
  have hperiod : Period.ofRequest (requestOf "2024-05-06" "2024-05-12") = .ok period := rfl
  have hcard : (Date.weekdays period.start period.finish).ncard = 5 := by
    rw [Date.ncard_weekdays]
    decide
  obtain ⟨total, hrun, -, htotal, -⟩ := totalDays_eq_weekdays_iff hperiod Shop.empty
  have hfive : total = 5 := by
    rw [← Int64.toInt_inj, htotal.mpr (by decide), hcard]
    decide
  refine ⟨period, hperiod, hcard, ?_⟩
  rw [hrun, hfive, weekdaySpending_empty]
  rfl

/-- The last date of the calendar is a weekday on its own, and no weekday is counted. -/
theorem totalDays_misses_last_date :
    ∃ period, Period.ofRequest (requestOf "+262142-12-31" "+262142-12-31") = .ok period ∧
      (Date.weekdays period.start period.finish).ncard = 1 ∧
      (run (stat Shop.database (requestOf "+262142-12-31" "+262142-12-31")) Shop.empty).1 =
        .ok (.stat 0 []) := by
  let period : Period := ⟨Date.last, Date.last, by decide⟩
  have hperiod : Period.ofRequest (requestOf "+262142-12-31" "+262142-12-31") = .ok period := rfl
  refine ⟨period, hperiod, ?_, ?_⟩
  · rw [Date.ncard_weekdays]
    decide
  · have hnone : weekdaysBetween period.start period.finish = 0 := by decide
    rw [run_stat_shop hperiod, weekdaySpending_empty, hnone]
    rfl

end ShopQuery.Report
