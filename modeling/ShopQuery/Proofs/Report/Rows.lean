import ShopQuery.Proofs.Report.Search
import ShopQuery.Proofs.Report.StatReplies

/-!
# Rows are read faithfully or not at all

What the rows of a result read as, whatever its columns are called and whatever its rows hold.

* `readsRows_of_readsRow` carries over from one row to all rows: every row its own value, in order,
  or else the first fault of the first row that has one.
* `customerNames_and_expenses_faithful` says so of names and of expenses.

## How the proof goes

Names and expenses are read in the same way from different columns. `ReadsRow` says what reading one
row is, for any columns and any value: it gives the value of the row exactly where the row has one,
and fails exactly with the first column that cannot be read. Both readers are shown to be of that
kind, in `Search` and `StatReplies`, and the rest is one lemma for both.

From one row to all of them is `mapM_eq_ok_iff` and `mapM_eq_error_iff`. That a row has a value
exactly where all of its columns have cells of their types is not asked for again: if it had none,
there would be a first column that cannot be read (`exists_firstUnreadable_iff`).
-/

namespace ShopQuery.Report

open QueryResult

variable {α : Type}

/-! ## 1. One row -/

/-- A row has a cell of the right type in every column. -/
def HasCells (result : QueryResult) (columns : List (String × CellType)) (row : Row) : Prop :=
  ∀ column ∈ columns, result.Holds row column.1 column.2

/-- Reading a row gives its value, or the fault of the first of some columns that cannot be read. -/
structure ReadsRow (result : QueryResult) (columns : List (String × CellType))
    (value : Row → α → Prop) (read : Row → Except QueryFault α) : Prop where
  ok_iff : ∀ row a, read row = .ok a ↔ value row a
  error_iff : ∀ row fault, read row = .error fault ↔ result.FirstUnreadable row columns fault

/-- A row has a value exactly where it has its cells. -/
theorem ReadsRow.exists_value_iff {result : QueryResult} {columns : List (String × CellType)}
    {value : Row → α → Prop} {read : Row → Except QueryFault α}
    (h : ReadsRow result columns value read) (row : Row) :
    (∃ a, value row a) ↔ HasCells result columns row := by
  have hfault : (∃ fault, result.FirstUnreadable row columns fault) ↔ _ :=
    exists_firstUnreadable_iff
  simp only [← h.ok_iff, ← h.error_iff] at hfault ⊢
  unfold HasCells
  rw [← not_iff_not, ← hfault]
  cases read row <;> simp

/-! ## 2. All rows -/

/-- Reading all rows succeeds exactly where every row is readable, and then has the value of each in
order; otherwise the error is that of the first column that cannot be read in the first row that is
not readable. -/
structure ReadsRows (result : QueryResult) (columns : List (String × CellType))
    (value : Row → α → Prop) (outcome : Except Error (List α)) : Prop where
  succeeds_iff : (∃ values, outcome = .ok values) ↔ ∀ row ∈ result.rows, HasCells result columns row
  ok_iff : ∀ values, outcome = .ok values ↔ List.Forall₂ value result.rows values
  error_iff : ∀ e, outcome = .error e ↔
    ∃ before row after fault, result.rows = before ++ row :: after ∧
      (∀ earlier ∈ before, HasCells result columns earlier) ∧
      result.FirstUnreadable row columns fault ∧ e = .query fault.message

/-- The traversal of the rows stops at the first of them that cannot be read. -/
theorem readsRows_of_readsRow {result : QueryResult} {columns : List (String × CellType)}
    {value : Row → α → Prop} {read : Row → Except QueryFault α}
    (h : ReadsRow result columns value read) :
    ReadsRows result columns value ((result.rows.mapM read).mapError QueryFault.error) := by
  have hok : ∀ values, (result.rows.mapM read).mapError QueryFault.error = .ok values ↔
      List.Forall₂ value result.rows values := by
    intro values
    simp only [mapError_eq_ok_iff, mapM_eq_ok_iff, h.ok_iff]
  refine ⟨?_, hok, fun e => ?_⟩
  · simp only [hok, exists_forall₂_iff, h.exists_value_iff]
  · simp only [mapError_eq_error_iff, mapM_eq_error_iff, h.ok_iff, h.error_iff, h.exists_value_iff]
    constructor
    · rintro ⟨fault, ⟨before, row, after, hrows, hearlier, hfault⟩, rfl⟩
      exact ⟨before, row, after, fault, hrows, hearlier, hfault, rfl⟩
    · rintro ⟨before, row, after, fault, hrows, hearlier, hfault, rfl⟩
      exact ⟨fault, ⟨before, row, after, hrows, hearlier, hfault⟩, rfl⟩

/-- **Rows are read faithfully or not at all.** A cell belongs to the first column of its name. The
names of a result are the texts in its two name columns, and its expenses the texts and the integer
in its three; one cell of another type, one that is null and one that is missing leave nothing but
the error of the first of them. -/
theorem customerNames_and_expenses_faithful (result : QueryResult) :
    (∀ row column cell, result.cell? row column = some cell ↔
      ∃ i : Nat, result.columns[i]? = some column ∧
        (∀ j < i, result.columns[j]? ≠ some column) ∧ row[i]? = some cell) ∧
    ReadsRows result [("last_name", .text), ("first_name", .text)] (ReadsAs result)
      ((customerNames result).mapError QueryFault.error) ∧
    ReadsRows result [("last_name", .text), ("first_name", .text), ("total_expenses", .integer)]
      (SpendsAs result) ((customerExpenses result).mapError QueryFault.error) := by
  refine ⟨fun _ _ _ => cell?_eq_some_iff, ?_, ?_⟩
  · exact readsRows_of_readsRow
      ⟨fun _ _ => customerName_eq_ok_iff, fun _ _ => customerName_eq_error_iff⟩
  · exact readsRows_of_readsRow
      ⟨fun _ _ => customerExpense_eq_ok_iff, fun _ _ => customerExpense_eq_error_iff⟩

end ShopQuery.Report
