import ShopQuery.Proofs.FirstFailure
import ShopQuery.Proofs.Query.Cells
import ShopQuery.Proofs.Report.Values

/-!
# Searches are all or nothing

What a search asks of a database and what it comes to, whatever the database replies.

* `run_searchEntries_of_names`: where every reply has names, every statement is given once, in
  order, and each item gets the names of its own reply.
* `run_searchEntries_of_failure`: the first reply without names ends the search; no later statement
  is given, and its error is all that is left.
* `search_all_or_nothing` puts both behind the plan of the request.

## What replies are said to be

A reply has names (`HasNames`) or it fails with an error (`FailsWith`), never both and never neither
(`hasNames_or_failsWith`). Both are said of the rows of the reply and not of the function that reads
them: a row has names where the first columns that are called so hold texts, and it fails with the
fault of the first of them that does not. `hasNames_iff` and `failsWith_iff` say that the reader
comes to just this.

## How the proof goes

There is one step for either kind of reply (`run_searchEntries_cons_of_names`,
`run_searchEntries_cons_of_failure`), and a step lemma is all that is known of the dialogue from
then on. The run that succeeds is an induction on the plan. The run that fails is one on the queries
in front of the one that fails, and the queries behind it are a list that nothing is said about. The
log grows at its end, so both are stated for a log that has something in it already.

The statement speaks of a position in the list of replies. The plan is cut there; what stands before
has names, because none of it fails.
-/

namespace ShopQuery.Report

open Database QueryResult

variable {σ : Type}

/-! ## 1. Replies with names -/

/-- The columns of a name, in the order in which they are read. -/
def nameColumns : List (String × CellType) := [("last_name", .text), ("first_name", .text)]

/-- A row reads as a name: its texts stand in the first columns that are called so. -/
structure ReadsAs (result : QueryResult) (row : Row) (name : CustomerName) : Prop where
  lastName : result.cell? row "last_name" = some (.text name.lastName)
  firstName : result.cell? row "first_name" = some (.text name.firstName)

/-- A reply has names: it is a result whose rows, in order, read as these. -/
def HasNames (reply : Except Error QueryResult) (names : List CustomerName) : Prop :=
  ∃ result, reply = .ok result ∧ List.Forall₂ (ReadsAs result) result.rows names

/-- Why a reply has no names: it is an error, or one of its rows is the first that cannot be
read. -/
inductive FailsWith (reply : Except Error QueryResult) : Error → Prop
  | failed {e : Error} (error : reply = .error e) : FailsWith reply e
  | unreadable {result : QueryResult} {before after : List Row} {row : Row} {fault : QueryFault}
    (ok : reply = .ok result) (rows : result.rows = before ++ row :: after)
    (earlier : ∀ r ∈ before, ∃ name, ReadsAs result r name)
    (cell : result.FirstUnreadable row nameColumns fault) : FailsWith reply fault.error

/-- A name is read from a row that reads as it. -/
theorem customerName_eq_ok_iff {result : QueryResult} {row : Row} {name : CustomerName} :
    customerName result row = .ok name ↔ ReadsAs result row name := by
  unfold customerName
  simp only [bind_eq_ok_iff, text_eq_ok_iff]
  constructor
  · rintro ⟨lastName, hlast, firstName, hfirst, h⟩
    cases h
    exact ⟨hlast, hfirst⟩
  · rintro ⟨hlast, hfirst⟩
    exact ⟨name.lastName, hlast, name.firstName, hfirst, rfl⟩

/-- The first column that cannot be read decides the fault of a row. -/
theorem customerName_eq_error_iff {result : QueryResult} {row : Row} {fault : QueryFault} :
    customerName result row = .error fault ↔ result.FirstUnreadable row nameColumns fault := by
  unfold customerName nameColumns
  simp only [FirstUnreadable, ← exists_text_eq_ok_iff, ← text_eq_error_iff, bind_eq_error_iff,
    pure, Except.pure, reduceCtorEq, and_false, exists_false, or_false, exists_and_right]

/-- Names are read from rows that read as them, one by one. -/
theorem customerNames_eq_ok_iff {result : QueryResult} {names : List CustomerName} :
    customerNames result = .ok names ↔ List.Forall₂ (ReadsAs result) result.rows names := by
  unfold customerNames
  rw [mapM_eq_ok_iff]
  simp only [customerName_eq_ok_iff]

/-- A reply has the names that are read from it. -/
theorem hasNames_iff {reply : Except Error QueryResult} {names : List CustomerName} :
    HasNames reply names ↔ readReply customerNames reply = .ok names := by
  rw [readReply_eq_ok_iff]
  unfold HasNames
  simp only [customerNames_eq_ok_iff]

/-- The traversal of the rows stops at the first of them that cannot be read. -/
theorem failsWith_iff {reply : Except Error QueryResult} {e : Error} :
    FailsWith reply e ↔ readReply customerNames reply = .error e := by
  rw [readReply_eq_error_iff]
  unfold customerNames
  simp only [mapM_eq_error_iff, customerName_eq_ok_iff, customerName_eq_error_iff]
  constructor
  · intro h
    cases h with
    | failed herror => exact Or.inl herror
    | unreadable hok hrows hearlier hcell =>
      exact Or.inr ⟨_, _, hok, ⟨_, _, _, hrows, hearlier, hcell⟩, rfl⟩
  · rintro (herror | ⟨result, fault, hok, ⟨before, row, after, hrows, hearlier, hcell⟩, rfl⟩)
    · exact .failed herror
    · exact .unreadable hok hrows hearlier hcell

/-- Every reply has names or fails. -/
theorem hasNames_or_failsWith (reply : Except Error QueryResult) :
    (∃ names, HasNames reply names) ∨ ∃ e, FailsWith reply e := by
  cases h : readReply customerNames reply with
  | ok names => exact Or.inl ⟨names, hasNames_iff.mpr h⟩
  | error e => exact Or.inr ⟨e, failsWith_iff.mpr h⟩

/-- Replies none of which fails have names, each its own. -/
theorem exists_names_of_forall_not_failsWith {replies : List (Except Error QueryResult)}
    (h : ∀ reply ∈ replies, ∀ e, ¬ FailsWith reply e) :
    ∃ names, List.Forall₂ HasNames replies names := by
  refine exists_forall₂_iff.mpr fun reply hreply => ?_
  rcases hasNames_or_failsWith reply with hnames | ⟨e, he⟩
  · exact hnames
  · exact absurd he (h reply hreply e)

/-! ## 2. Asking planned queries -/

/-- The step that goes on: a reply with names lets the search go to the next query. -/
theorem run_searchEntries_cons_of_names {db : Database σ} {query : PlannedQuery} {state : σ}
    {names : List CustomerName} (h : HasNames (db.answer query.statement state).1 names)
    (rest : List PlannedQuery) (log : List Statement) :
    run (searchEntries db.logged (query :: rest)) (state, log) =
      run (do
        let entries ← searchEntries db.logged rest
        return ⟨query.item, names⟩ :: entries)
      ((db.answer query.statement state).2, log ++ [query.statement]) := by
  obtain ⟨result, hreply, hrows⟩ := h
  have hask := run_execute_logged db query.statement state log
  rw [hreply] at hask
  rw [searchEntries, run_bind_of_ok hask, customerNames_eq_ok_iff.mpr hrows, readValue_ok,
    pure_bind]

/-- The step that ends the search: a reply without names leaves its error and nothing else. -/
theorem run_searchEntries_cons_of_failure {db : Database σ} {query : PlannedQuery} {state : σ}
    {e : Error} (h : FailsWith (db.answer query.statement state).1 e)
    (rest : List PlannedQuery) (log : List Statement) :
    run (searchEntries db.logged (query :: rest)) (state, log) =
      (.error e, (db.answer query.statement state).2, log ++ [query.statement]) := by
  have hask := run_execute_logged db query.statement state log
  rw [searchEntries]
  rcases readReply_eq_error_iff.mp (failsWith_iff.mp h) with
    hreply | ⟨result, fault, hreply, hread, rfl⟩
  · rw [hreply] at hask
    exact run_bind_of_error hask _
  · rw [hreply] at hask
    rw [run_bind_of_ok hask, hread, run_readValue_error_bind]

/-- The run that succeeds, by induction on the plan; the log grows at its end. -/
theorem run_searchEntries_of_names {db : Database σ} {plan : List PlannedQuery} {state : σ}
    {names : List (List CustomerName)}
    (h : List.Forall₂ HasNames (db.replies (plan.map (·.statement)) state) names)
    (log : List Statement) :
    run (searchEntries db.logged plan) (state, log) =
      (.ok (List.zipWith SearchEntry.mk (plan.map (·.item)) names),
        db.after (plan.map (·.statement)) state, log ++ plan.map (·.statement)) := by
  induction plan generalizing state names log with
  | nil => simp [searchEntries, Database.after]
  | cons query rest ih =>
    rw [List.map_cons, replies, List.forall₂_cons_left_iff] at h
    obtain ⟨own, others, hown, hothers, rfl⟩ := h
    rw [run_searchEntries_cons_of_names hown, run_bind_of_ok (ih hothers _)]
    simp [Database.after]

/-- The run that fails, by induction on the queries before the one whose reply fails. -/
theorem run_searchEntries_of_failure {db : Database σ} {before : List PlannedQuery}
    {query : PlannedQuery} {state : σ} {names : List (List CustomerName)} {e : Error}
    (h : List.Forall₂ HasNames (db.replies (before.map (·.statement)) state) names)
    (he : FailsWith
      (db.answer query.statement (db.after (before.map (·.statement)) state)).1 e)
    (rest : List PlannedQuery) (log : List Statement) :
    run (searchEntries db.logged (before ++ query :: rest)) (state, log) =
      (.error e, db.after ((before ++ [query]).map (·.statement)) state,
        log ++ (before ++ [query]).map (·.statement)) := by
  induction before generalizing state names log with
  | nil => simpa [Database.after] using run_searchEntries_cons_of_failure he rest log
  | cons first before ih =>
    rw [List.map_cons, replies, List.forall₂_cons_left_iff] at h
    obtain ⟨own, others, hown, hothers, rfl⟩ := h
    rw [List.cons_append, run_searchEntries_cons_of_names hown,
      run_bind_of_error (ih hothers he _)]
    simp [Database.after]

/-! ## 3. Answering search requests -/

/-- A query keeps the item that it was planned for. -/
theorem item_of_ofItem {item : Json} {query : PlannedQuery} (h : Plan.ofItem item = .ok query) :
    query.item = item := by
  unfold Plan.ofItem at h
  simp only [bind_eq_ok_iff] at h
  obtain ⟨criteria, _, kind, _, statement, _, h⟩ := h
  cases h
  rfl

/-- The plan of a request has its items, in order. -/
theorem items_eq_of_plan {request : Json} {plan : List PlannedQuery}
    (h : Plan.ofRequest request = .ok plan) :
    Plan.items request = .ok (plan.map (·.item)) := by
  unfold Plan.ofRequest at h
  obtain ⟨items, hitems, hplan⟩ := bind_eq_ok_iff.mp h
  rw [mapM_eq_ok_iff] at hplan
  have hsame : plan.map (·.item) = items := by
    clear h hitems
    induction hplan with
    | nil => rfl
    | cons hitem _ ih => rw [List.map_cons, item_of_ofItem hitem, ih]
  rw [hitems, hsame]

/-- Items and as many results make entries, each of its own item and result. -/
theorem entries_of_items {items : List Json} {names : List (List CustomerName)}
    (h : items.length = names.length) :
    (List.zipWith SearchEntry.mk items names).map (·.criteria) = items ∧
      (List.zipWith SearchEntry.mk items names).map (·.results) = names := by
  induction items generalizing names with
  | nil => cases names <;> simp at h ⊢
  | cons item rest ih =>
    cases names with
    | nil => simp at h
    | cons own others =>
      have hrest : rest.length = others.length := by simpa using h
      obtain ⟨hcriteria, hresults⟩ := ih hrest
      simp [hcriteria, hresults]

/-- Without a plan, nothing is asked. -/
theorem run_search_of_error {db : Database σ} {request : Json} {e : Error}
    (h : Plan.ofRequest request = .error e) (state : σ) :
    run (search db request) state = (.error e, state) := by
  unfold search
  rw [h, run_pureValue_error_bind]

/-- With a plan, its queries are asked. -/
theorem run_search_of_plan {db : Database σ} {request : Json} {plan : List PlannedQuery}
    (h : Plan.ofRequest request = .ok plan) (state : σ) :
    run (search db request) state = run (do return .search (← searchEntries db plan)) state := by
  unfold search
  rw [h, pureValue_ok, pure_bind]

/-- **A search is all or nothing.** Where the request has no plan, nothing is asked. Otherwise the
statements of the plan are asked in order up to the first reply that fails, whose error is all that
is left; if none fails, every item has the names of its own reply. -/
theorem search_all_or_nothing (db : Database σ) (state : σ) (request : Json) :
    match Plan.ofRequest request with
    | .error e => run (search db.logged request) (state, []) = (.error e, state, [])
    | .ok plan =>
      let statements := plan.map (·.statement)
      let replies := db.replies statements state
      Plan.items request = .ok (plan.map (·.item)) ∧
      (∀ (i : Nat) (reply : Except Error QueryResult) (e : Error),
        replies[i]? = some reply → FailsWith reply e →
        (∀ earlier ∈ replies.take i, ∀ e', ¬ FailsWith earlier e') →
        run (search db.logged request) (state, []) =
          (.error e, db.after (statements.take (i + 1)) state, statements.take (i + 1))) ∧
      ((∀ reply ∈ replies, ∀ e, ¬ FailsWith reply e) →
        ∃ entries : List SearchEntry,
          entries.map (·.criteria) = plan.map (·.item) ∧
          List.Forall₂ HasNames replies (entries.map (·.results)) ∧
          run (search db.logged request) (state, []) =
            (.ok (.search entries), db.after statements state, statements)) := by
  cases hplan : Plan.ofRequest request with
  | error e => exact run_search_of_error hplan (state, [])
  | ok plan =>
    refine ⟨items_eq_of_plan hplan, ?_, ?_⟩
    · intro i reply e hreply hfails hearlier
      rw [getElem?_replies, List.getElem?_map] at hreply
      obtain ⟨_, hstatement, rfl⟩ := Option.map_eq_some_iff.mp hreply
      obtain ⟨query, hquery, rfl⟩ := Option.map_eq_some_iff.mp hstatement
      -- The plan is cut at the query whose reply fails; the replies before it all have names.
      obtain ⟨hi, rfl⟩ := List.getElem?_eq_some_iff.mp hquery
      rw [take_replies] at hearlier
      obtain ⟨names, hnames⟩ := exists_names_of_forall_not_failsWith hearlier
      rw [← List.map_take] at hnames hfails
      have hrun := run_searchEntries_of_failure hnames hfails (plan.drop (i + 1)) []
      rw [List.getElem_cons_drop, List.take_append_drop, List.take_append_getElem] at hrun
      rw [run_search_of_plan hplan, run_bind_of_error hrun]
      simp
    · intro hnone
      obtain ⟨names, hnames⟩ := exists_names_of_forall_not_failsWith hnone
      have hlength : (plan.map (·.item)).length = names.length := by
        have hsame := hnames.length_eq
        rw [length_replies, List.length_map] at hsame
        rwa [List.length_map]
      obtain ⟨hcriteria, hresults⟩ := entries_of_items hlength
      refine ⟨List.zipWith SearchEntry.mk (plan.map (·.item)) names, hcriteria, ?_, ?_⟩
      · rwa [hresults]
      · rw [run_search_of_plan hplan, run_bind_of_ok (run_searchEntries_of_names hnames [])]
        rfl

end ShopQuery.Report
