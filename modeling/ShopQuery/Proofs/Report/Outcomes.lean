import ShopQuery.Proofs.Report.Search
import ShopQuery.Proofs.Report.Statistics
import ShopQuery.Proofs.Request.Outcomes
import ShopQuery.Proofs.Shop.Totals

/-!
# Outcomes of reports over a shop

What can become of a request over the tables of a shop. Every statement that is asked suits its
template, so its parameters are never at fault, and the report can read the rows that answer it
(`answered_of_wellTyped`). What is left are the faults of the request itself, a negative limit and a
total that does not fit (`answer_over_shop`).

## How the proof goes

Errors could come from four places: the request, the parameters of a statement, the tables, and the
rows that are read. The second and the fourth are shut out. Plans and periods make well-typed
statements (`Plan.wellTyped_of_ofRequest`), and for each template the columns and cells that a shop
answers with are those that the report reads (`Readable`). What the tables leave are two faults,
each of templates of its own: `Answered` has one case for each, and one for a result.

A search asks several statements, so what holds of one is carried through the plan, by induction,
with the log (`run_searchEntries_over_shop`): every statement in it is one of the plan. Statistics
always ask both statements, since the first has no fault.

`Outcome` is the whole list of what can come of it. Its errors are given by their texts, which do
not depend on the shop.
-/

namespace ShopQuery.Report

open Database

/-! ## 1. Reading what a shop answers -/

def nameOf (c : Customer) : CustomerName := ⟨c.lastName, c.firstName⟩

/-- The rows of customers read as their names. -/
theorem customerNames_of_customers {result : QueryResult} {customers : List Customer}
    (hcolumns : result.columns = ["last_name", "first_name"])
    (hrows : result.rows = customers.map Shop.nameRow) :
    customerNames result = .ok (customers.map nameOf) := by
  obtain ⟨columns, rows⟩ := result
  subst hcolumns hrows
  unfold customerNames
  rw [mapM_eq_ok_iff, List.forall₂_map_left_iff, List.forall₂_map_right_iff, List.forall₂_same]
  intro c _
  rfl

/-- A report can read a result of a template. -/
def Readable : Template → QueryResult → Prop
  | .weekdayCount, result => ∃ n, totalDays result = .ok n
  | .customerExpenses, result => ∃ expenses, customerExpenses result = .ok expenses
  | _, result => ∃ names, customerNames result = .ok names

/-- What becomes of a statement over the tables of a shop: its result can be read, or it has one of
two faults. -/
inductive Answered (shop : Shop) (s : Statement) : Prop
  | readable (result : QueryResult) (execute : shop.execute s = .ok result)
    (readable : Readable s.template result)
  | negativeLimit (template : s.template = .badCustomers)
    (rows : shop.rows s = .error .negativeLimit)
  | overflow (template : s.template = .expenseRange ∨ s.template = .customerExpenses)
    (rows : shop.rows s = .error .bigintOutOfRange)

/-- **A shop answers a well-typed statement, or has one of two faults.** By the form of the
statement. -/
theorem answered_of_wellTyped (shop : Shop) {s : Statement} (h : s.WellTyped) :
    Answered shop s := by
  cases h.typed with
  | lastName name =>
    exact .readable _ (shop.execute_lastName name) ⟨_, customerNames_of_customers rfl rfl⟩
  | productFrequency product least =>
    exact .readable _ (shop.execute_productFrequency product least)
      ⟨_, customerNames_of_customers rfl rfl⟩
  | expenseRange least greatest =>
    -- Totals are the one thing that can fail here, and a negative limit below.
    cases hspending : shop.spending least greatest with
    | ok customers =>
      have hexecute := shop.execute_expenseRange least greatest
      rw [hspending] at hexecute
      exact .readable _ hexecute ⟨_, customerNames_of_customers rfl rfl⟩
    | error fault =>
      refine .overflow (Or.inl rfl) ?_
      rw [shop.rows_expenseRange, hspending, Shop.fault_of_spending hspending]
      rfl
  | badCustomers limit =>
    have hrows := shop.rows_badCustomers limit
    have hexecute := shop.execute_badCustomers limit
    unfold Shop.rarestBuyers at hrows hexecute
    split at hrows
    · exact .negativeLimit rfl hrows
    · rename_i hlimit
      rw [if_neg hlimit] at hexecute
      exact .readable _ hexecute ⟨_, customerNames_of_customers rfl rfl⟩
  | weekdayCount start finish =>
    exact .readable _ (shop.execute_weekdayCount start finish) ⟨_, totalDays_singleton _⟩
  | customerExpenses start finish =>
    cases hspending : shop.weekdaySpending start finish with
    | ok sums =>
      have hexecute := shop.execute_customerExpenses start finish
      rw [hspending] at hexecute
      exact .readable _ hexecute ⟨_, customerExpenses_of_sums sums⟩
    | error fault =>
      refine .overflow (Or.inr rfl) ?_
      rw [shop.rows_customerExpenses, hspending, Shop.fault_of_weekdaySpending hspending]
      rfl

/-! ## 2. Searches -/

/-- The errors of queries that a shop leaves to a search. -/
def IsSearchFault (e : Error) : Prop :=
  e = QueryFault.negativeLimit.error ∨ e = QueryFault.bigintOutOfRange.error

/-- What a shop answers to a statement of a kind of criteria has names, or is one of two errors. -/
theorem hasNames_or_fault (shop : Shop) {s : Statement} {kind : CriteriaKind}
    (hkind : s.template = kind.template) (h : s.WellTyped) :
    (∃ names, HasNames (shop.execute s) names) ∨
      ∃ e, IsSearchFault e ∧ FailsWith (shop.execute s) e := by
  cases answered_of_wellTyped shop h with
  | readable result hexecute hreadable =>
    have hnames : ∃ names, customerNames result = .ok names := by
      rw [hkind] at hreadable
      cases kind <;> exact hreadable
    obtain ⟨names, hnames⟩ := hnames
    exact Or.inl ⟨names, result, hexecute, customerNames_eq_ok_iff.mp hnames⟩
  | negativeLimit _ hrows =>
    refine Or.inr ⟨_, Or.inl rfl, .failed ?_⟩
    rw [shop.execute_eq_resultOf, hrows]
    rfl
  | overflow _ hrows =>
    refine Or.inr ⟨_, Or.inr rfl, .failed ?_⟩
    rw [shop.execute_eq_resultOf, hrows]
    rfl

/-- A search over a shop, by induction on the plan: it asks statements of the plan, leaves the shop
as it is, and ends with entries or one of two errors. -/
theorem run_searchEntries_over_shop {plan : List PlannedQuery}
    (h : ∀ query ∈ plan,
      query.statement.template = query.kind.template ∧ query.statement.WellTyped)
    (shop : Shop) (log : List Statement) :
    ∃ outcome asked, run (searchEntries Shop.database.logged plan) (shop, log) =
        (outcome, shop, log ++ asked) ∧
      (∀ s ∈ asked, ∃ query ∈ plan, query.statement = s) ∧
      ∀ e, outcome = .error e → IsSearchFault e := by
  induction plan generalizing log with
  | nil =>
    exact ⟨.ok [], [], by simp [searchEntries], by simp, by simp⟩
  | cons query rest ih =>
    obtain ⟨hkind, htyped⟩ := h query List.mem_cons_self
    rcases hasNames_or_fault shop hkind htyped with ⟨names, hnames⟩ | ⟨e, hfault, hfails⟩
    -- The log grows in front of the rest of the plan, so the induction is for every log.
    · have hstep : run (searchEntries Shop.database.logged (query :: rest)) (shop, log) =
          run (do
            let entries ← searchEntries Shop.database.logged rest
            return ⟨query.item, names⟩ :: entries) (shop, log ++ [query.statement]) :=
        run_searchEntries_cons_of_names hnames rest log
      obtain ⟨outcome, asked, hrun, hasked, herror⟩ :=
        ih (fun q hq => h q (List.mem_cons_of_mem _ hq)) (log ++ [query.statement])
      have hmem : ∀ s ∈ query.statement :: asked, ∃ q ∈ query :: rest, q.statement = s := by
        intro s hs
        rcases List.mem_cons.mp hs with rfl | hs
        · exact ⟨query, List.mem_cons_self, rfl⟩
        · obtain ⟨q, hq, hstatement⟩ := hasked s hs
          exact ⟨q, List.mem_cons_of_mem _ hq, hstatement⟩
      cases outcome with
      | ok entries =>
        refine ⟨.ok (⟨query.item, names⟩ :: entries), query.statement :: asked, ?_, hmem, by simp⟩
        rw [hstep, run_bind_of_ok hrun, run_pure]
        simp
      | error e =>
        refine ⟨.error e, query.statement :: asked, ?_, hmem, herror⟩
        rw [hstep, run_bind_of_error hrun]
        simp
    · refine ⟨.error e, [query.statement], run_searchEntries_cons_of_failure hfails rest log,
        by simp, ?_⟩
      rintro _ ⟨⟩
      exact hfault

/-! ## 3. Statistics -/

/-- A shop is asked both statements, and ends with figures unless a total does not fit. -/
theorem run_stat_over_shop {request : Json} {period : Period}
    (h : Period.ofRequest request = .ok period) (shop : Shop) :
    ∃ outcome, run (stat Shop.database.logged request) (shop, []) =
        (outcome, shop,
          [⟨.weekdayCount, [.date period.start, .date period.finish]⟩,
            ⟨.customerExpenses, [.date period.start, .date period.finish]⟩]) ∧
      ((∃ total expenses, outcome = .ok (.stat total expenses)) ∨
        outcome = .error QueryFault.bigintOutOfRange.error) := by
  rw [run_stat_shop_logged h]
  cases hsums : shop.weekdaySpending period.start period.finish with
  | error fault =>
    rw [Shop.fault_of_weekdaySpending hsums]
    exact ⟨_, rfl, Or.inr rfl⟩
  | ok sums => exact ⟨_, rfl, Or.inl ⟨_, _, rfl⟩⟩

/-! ## 4. Reports -/

/-- What can become of a request in a mode, once statements were asked. -/
inductive Outcome (mode : Mode) (asked : List Statement) : Except Error Document → Prop
  | search (entries : List SearchEntry) (searching : mode = .search) :
    Outcome mode asked (.ok (.search entries))
  | stat (totalDays : Int64) (customers : List CustomerExpense) (counting : mode = .stat) :
    Outcome mode asked (.ok (.stat totalDays customers))
  | invalid {e : Error} (validation : e.isValidation = true) (unasked : asked = []) :
    Outcome mode asked (.error e)
  | negativeLimit (searching : mode = .search) :
    Outcome mode asked (.error (.query "LIMIT must not be negative"))
  | overflow : Outcome mode asked (.error (.query "bigint out of range"))

/-- **A report over a shop has no other outcome.** Every statement that is asked has as many
parameters as its template, each of the type that is read there; the report can read the answer, or
the limit is negative or a total does not fit. -/
theorem answer_over_shop (shop : Shop) (mode : Mode) (request : Json) :
    ∃ outcome asked,
      run (answer Shop.database.logged mode request) (shop, []) = (outcome, shop, asked) ∧
      (∀ s ∈ asked,
        s.params.length = s.template.arity ∧ s.WellTyped ∧ Answered shop s) ∧
      Outcome mode asked outcome := by
  have hasks : ∀ s : Statement, s.WellTyped →
      s.params.length = s.template.arity ∧ s.WellTyped ∧ Answered shop s := fun _ h =>
    ⟨h.length_params, h, answered_of_wellTyped shop h⟩
  -- A request at fault is told before anything is asked; all that comes later is up to the shop.
  cases mode with
  | search =>
    show ∃ outcome asked, run (search Shop.database.logged request) (shop, []) = _ ∧ _
    cases hplan : Plan.ofRequest request with
    | error e =>
      exact ⟨_, _, run_search_of_error hplan _, by simp,
        .invalid (Plan.isValidation_of_ofRequest hplan) rfl⟩
    | ok plan =>
      have htyped := Plan.wellTyped_of_ofRequest hplan
      obtain ⟨outcome, asked, hrun, hasked, herror⟩ := run_searchEntries_over_shop htyped shop []
      have hall : ∀ s ∈ asked,
          s.params.length = s.template.arity ∧ s.WellTyped ∧ Answered shop s := by
        intro s hs
        obtain ⟨query, hquery, rfl⟩ := hasked s hs
        exact hasks _ (htyped query hquery).2
      rw [run_search_of_plan hplan]
      cases outcome with
      | ok entries => exact ⟨_, _, run_bind_of_ok hrun _, hall, .search entries rfl⟩
      | error e =>
        refine ⟨_, _, run_bind_of_error hrun _, hall, ?_⟩
        rcases herror e rfl with rfl | rfl
        · exact .negativeLimit rfl
        · exact .overflow
  | stat =>
    show ∃ outcome asked, run (stat Shop.database.logged request) (shop, []) = _ ∧ _
    cases hperiod : Period.ofRequest request with
    | error e =>
      refine ⟨.error e, [], ?_, by simp, .invalid (Period.isValidation_of_ofRequest hperiod) rfl⟩
      unfold stat
      rw [hperiod, run_pureValue_error_bind]
    | ok period =>
      obtain ⟨outcome, hrun, houtcome⟩ := run_stat_over_shop hperiod shop
      refine ⟨outcome, _, hrun, ?_, ?_⟩
      · exact List.forall_mem_cons.mpr ⟨hasks _ rfl, List.forall_mem_cons.mpr ⟨hasks _ rfl, nofun⟩⟩
      · rcases houtcome with ⟨total, expenses, rfl⟩ | rfl
        · exact .stat total expenses rfl
        · exact .overflow

end ShopQuery.Report
