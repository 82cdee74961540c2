import ShopQuery.Proofs.FirstFailure
import ShopQuery.Proofs.Query.Cells
import ShopQuery.Proofs.Report.Values

/-!
# Statistics are all or nothing

What a statistics request asks of a database and what it comes to, whatever the database replies.

* A reply has a total (`HasTotal`) or an error instead (`LacksTotal`), and likewise it has expenses
  or an error.
* `run_stat_of_period` runs a request with a period.
* `stat_all_or_nothing` says for all requests what is asked and what comes of it.

## How the proof goes

What a reply has is said of its rows, and the lemmas of the first two sections say that the readers
come to just that. The total is read from the first row alone, so that a reply may have a total
whatever its other rows hold; expenses are read from all rows, and the first that cannot be read is
the error.

The run itself is two steps of one kind (`run_ask_logged`): a statement is asked, its reply is read.
The log tells how far it came. With one statement in it, the first reply had no total; with two, the
first had one, and the second reply decides. So the statement can be an equivalence for figures and
one for errors, with no third case.

The two statements are taken as variables in the proof, as nothing in it depends on what they are.
-/

namespace ShopQuery.Report

open Database QueryResult

variable {σ : Type}

/-! ## 1. Totals -/

/-- A reply has a total: it is a result with the integer in its first row. Further rows are not
looked at. -/
def HasTotal (reply : Except Error QueryResult) (total : Int64) : Prop :=
  ∃ result row rest, reply = .ok result ∧ result.rows = row :: rest ∧
    result.cell? row "total_days" = some (.int total)

/-- Why a reply has no total: it is an error, it has no rows, or the integer cannot be read in its
first row. -/
inductive LacksTotal (reply : Except Error QueryResult) : Error → Prop
  | failed {e : Error} (error : reply = .error e) : LacksTotal reply e
  | noRows {result : QueryResult} (ok : reply = .ok result) (rows : result.rows = []) :
    LacksTotal reply QueryFault.noWeekdayRows.error
  | unreadable {result : QueryResult} {row : Row} {rest : List Row} {fault : QueryFault}
    (ok : reply = .ok result) (rows : result.rows = row :: rest)
    (cell : result.Unreadable row "total_days" .integer fault) : LacksTotal reply fault.error

/-- A reply has the total that is read from it. -/
theorem hasTotal_iff {reply : Except Error QueryResult} {total : Int64} :
    HasTotal reply total ↔ readReply totalDays reply = .ok total := by
  rw [readReply_eq_ok_iff]
  unfold HasTotal totalDays
  constructor
  · rintro ⟨result, row, rest, hok, hrows, hcell⟩
    refine ⟨result, hok, ?_⟩
    rw [hrows]
    exact int_eq_ok_iff.mpr hcell
  · rintro ⟨result, hok, htotal⟩
    cases hrows : result.rows with
    | nil =>
      rw [hrows] at htotal
      cases htotal
    | cons row rest =>
      rw [hrows] at htotal
      exact ⟨result, row, rest, hok, hrows, int_eq_ok_iff.mp htotal⟩

/-- It lacks one with the error that reading it comes to. -/
theorem lacksTotal_iff {reply : Except Error QueryResult} {e : Error} :
    LacksTotal reply e ↔ readReply totalDays reply = .error e := by
  rw [readReply_eq_error_iff]
  unfold totalDays
  constructor
  · intro h
    cases h with
    | failed herror => exact Or.inl herror
    | noRows hok hrows =>
      refine Or.inr ⟨_, _, hok, ?_, rfl⟩
      rw [hrows]
    | unreadable hok hrows hcell =>
      refine Or.inr ⟨_, _, hok, ?_, rfl⟩
      rw [hrows]
      exact int_eq_error_iff.mpr hcell
  · rintro (herror | ⟨result, fault, hok, hfault, rfl⟩)
    · exact .failed herror
    · cases hrows : result.rows with
      | nil =>
        rw [hrows] at hfault
        cases hfault
        exact .noRows hok hrows
      | cons row rest =>
        rw [hrows] at hfault
        exact .unreadable hok hrows (int_eq_error_iff.mp hfault)

/-! ## 2. Expenses -/

/-- A row reads as an expense: the name is made of its two texts, the total is its integer. -/
structure SpendsAs (result : QueryResult) (row : Row) (expense : CustomerExpense) : Prop where
  name : ∃ lastName firstName, result.cell? row "last_name" = some (.text lastName) ∧
    result.cell? row "first_name" = some (.text firstName) ∧
    expense.name = lastName ++ " " ++ firstName
  total : result.cell? row "total_expenses" = some (.int expense.totalExpenses)

/-- The columns of an expense, in the order in which they are read. -/
def expenseColumns : List (String × CellType) :=
  [("last_name", .text), ("first_name", .text), ("total_expenses", .integer)]

/-- A reply has expenses: it is a result whose rows, in order, read as these. -/
def HasExpenses (reply : Except Error QueryResult) (expenses : List CustomerExpense) : Prop :=
  ∃ result, reply = .ok result ∧ List.Forall₂ (SpendsAs result) result.rows expenses

/-- Why a reply has no expenses: it is an error, or one of its rows is the first that cannot be
read. -/
inductive LacksExpenses (reply : Except Error QueryResult) : Error → Prop
  | failed {e : Error} (error : reply = .error e) : LacksExpenses reply e
  | unreadable {result : QueryResult} {before after : List Row} {row : Row} {fault : QueryFault}
    (ok : reply = .ok result) (rows : result.rows = before ++ row :: after)
    (earlier : ∀ r ∈ before, ∃ expense, SpendsAs result r expense)
    (cell : result.FirstUnreadable row expenseColumns fault) : LacksExpenses reply fault.error

/-- An expense is read from a row that reads as it. -/
theorem customerExpense_eq_ok_iff {result : QueryResult} {row : Row} {expense : CustomerExpense} :
    customerExpense result row = .ok expense ↔ SpendsAs result row expense := by
  unfold customerExpense
  simp only [bind_eq_ok_iff, text_eq_ok_iff, int_eq_ok_iff]
  constructor
  · rintro ⟨lastName, hlast, firstName, hfirst, total, htotal, h⟩
    cases h
    exact ⟨⟨lastName, firstName, hlast, hfirst, rfl⟩, htotal⟩
  · rintro ⟨⟨lastName, firstName, hlast, hfirst, hname⟩, htotal⟩
    refine ⟨lastName, hlast, firstName, hfirst, expense.totalExpenses, htotal, ?_⟩
    rw [← hname]
    rfl

/-- The first column that cannot be read decides the fault of a row. -/
theorem customerExpense_eq_error_iff {result : QueryResult} {row : Row} {fault : QueryFault} :
    customerExpense result row = .error fault ↔
      result.FirstUnreadable row expenseColumns fault := by
  unfold customerExpense expenseColumns
  simp only [FirstUnreadable, ← exists_text_eq_ok_iff, ← text_eq_error_iff, ← int_eq_error_iff,
    bind_eq_error_iff, pure, Except.pure, reduceCtorEq, and_false, exists_false, or_false,
    exists_and_right]

/-- A reply has the expenses that are read from it. -/
theorem hasExpenses_iff {reply : Except Error QueryResult} {expenses : List CustomerExpense} :
    HasExpenses reply expenses ↔ readReply customerExpenses reply = .ok expenses := by
  rw [readReply_eq_ok_iff]
  unfold HasExpenses customerExpenses
  simp only [mapM_eq_ok_iff, customerExpense_eq_ok_iff]

/-- It lacks them with the error that reading them comes to. -/
theorem lacksExpenses_iff {reply : Except Error QueryResult} {e : Error} :
    LacksExpenses reply e ↔ readReply customerExpenses reply = .error e := by
  rw [readReply_eq_error_iff]
  unfold customerExpenses
  simp only [mapM_eq_error_iff, customerExpense_eq_ok_iff, customerExpense_eq_error_iff]
  constructor
  · intro h
    cases h with
    | failed herror => exact Or.inl herror
    | unreadable hok hrows hearlier hcell =>
      exact Or.inr ⟨_, _, hok, ⟨_, _, _, hrows, hearlier, hcell⟩, rfl⟩
  · rintro (herror | ⟨result, fault, hok, ⟨before, row, after, hrows, hearlier, hcell⟩, rfl⟩)
    · exact .failed herror
    · exact .unreadable hok hrows hearlier hcell

/-! ## 3. Asking for figures -/

/-- Without a period, nothing is asked. -/
theorem run_stat_of_error {db : Database σ} {request : Json} {e : Error}
    (h : Period.ofRequest request = .error e) (state : σ) :
    run (stat db request) state = (.error e, state) := by
  unfold stat
  rw [h, run_pureValue_error_bind]

/-- A request with a period asks for its weekdays, and for the spending on them if there is a
total. -/
theorem run_stat_of_period {db : Database σ} {request : Json} {period : Period}
    (h : Period.ofRequest request = .ok period) {days spending : Statement}
    (hdays : days = ⟨.weekdayCount, [.date period.start, .date period.finish]⟩)
    (hspending : spending = ⟨.customerExpenses, [.date period.start, .date period.finish]⟩)
    (state : σ) :
    run (stat db.logged request) (state, []) =
      match readReply totalDays (db.answer days state).1 with
      | .error e => (.error e, (db.answer days state).2, [days])
      | .ok total =>
        ((readReply customerExpenses (db.answer spending (db.answer days state).2).1).map
          (.stat total), (db.answer spending (db.answer days state).2).2, [days, spending]) := by
  unfold stat
  rw [h, pureValue_ok, pure_bind]
  dsimp only
  rw [← hdays, ← hspending, run_ask_logged]
  cases readReply totalDays (db.answer days state).1 with
  | error e => rfl
  | ok total =>
    dsimp only
    rw [run_ask_logged]
    cases readReply customerExpenses (db.answer spending (db.answer days state).2).1 with
    | error e => rfl
    | ok expenses => rfl

/-- **Statistics are all or nothing.** Where the request has no period, nothing is asked. Otherwise
the weekdays are asked first, and exactly if the reply has a total, the spending between the same
bounds is asked too. Figures come of it exactly if that reply has expenses; in every other case the
first error that was met is all that is left. -/
theorem stat_all_or_nothing (db : Database σ) (state : σ) (request : Json) :
    let ran := run (stat db.logged request) (state, [])
    match Period.ofRequest request with
    | .error e => ran = (.error e, state, [])
    | .ok period =>
      let days : Statement := ⟨.weekdayCount, [.date period.start, .date period.finish]⟩
      let spending : Statement := ⟨.customerExpenses, [.date period.start, .date period.finish]⟩
      let first := db.answer days state
      let second := db.answer spending first.2
      period.start ≤ period.finish ∧
      ((∃ total, HasTotal first.1 total) → ran.2 = (second.2, [days, spending])) ∧
      ((¬ ∃ total, HasTotal first.1 total) → ran.2 = (first.2, [days])) ∧
      (∀ document, ran.1 = .ok document ↔
        ∃ total expenses, HasTotal first.1 total ∧ HasExpenses second.1 expenses ∧
          document = .stat total expenses) ∧
      (∀ e, ran.1 = .error e ↔
        LacksTotal first.1 e ∨ (∃ total, HasTotal first.1 total) ∧ LacksExpenses second.1 e) := by
  intro ran
  cases hperiod : Period.ofRequest request with
  | error e => exact run_stat_of_error hperiod (state, [])
  | ok period =>
    dsimp only
    generalize hdays : Statement.mk .weekdayCount [.date period.start, .date period.finish] = days
    generalize hspending :
      Statement.mk .customerExpenses [.date period.start, .date period.finish] = spending
    have hran : ran = _ := run_stat_of_period hperiod hdays.symm hspending.symm state
    simp only [hasTotal_iff, lacksTotal_iff, hasExpenses_iff, lacksExpenses_iff]
    refine ⟨period.ordered, ?_⟩
    rw [hran]
    cases readReply totalDays (db.answer days state).1 with
    | error e => simp
    | ok total =>
      refine ⟨fun _ => rfl, fun hnone => absurd ⟨total, rfl⟩ hnone, fun document => ?_, fun e => ?_⟩
      · rw [map_eq_ok_iff]
        constructor
        · rintro ⟨expenses, hexpenses, rfl⟩
          exact ⟨total, expenses, rfl, hexpenses, rfl⟩
        · rintro ⟨_, expenses, htotal, hexpenses, rfl⟩
          cases htotal
          exact ⟨expenses, hexpenses, rfl⟩
      · rw [map_eq_error_iff]
        simp

end ShopQuery.Report
