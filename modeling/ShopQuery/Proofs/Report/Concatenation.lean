import ShopQuery.Proofs.Report.Search
import ShopQuery.Proofs.Report.Simulation
import ShopQuery.Proofs.Request.Relisting
import ShopQuery.Proofs.Shop.Execute

/-!
# Searches for several lists of items

No report changes the tables of a shop, so what comes of a request does not depend on what was asked
before (`afterCalls_eq`). Therefore a search for the items of two lists finds what the searches for
each of them find, one after the other (`search_append`).

## How the proof goes

A plan in two parts is asked part by part (`searchEntries_append`), for any database at all. But the
second part is asked in the state that the first has left, and it is only because a shop is left as
it was that its outcome is that of the second list alone (`entriesOf_append`). That no call changes
a shop is the simulation of reports at the relation "both are this shop".

The plan of two lists is the plans of both, as every item is planned on its own
(`ofRequest_relist_append`). An empty list has no plan, though, and a request of two lists with an
empty one would have that of the other; so both lists are asked to have plans.

Errors come in order. Where the search for the first list fails, the second is never asked, so its
error does not show even if it has one.
-/

namespace ShopQuery.Report

open Database

/-! ## 1. Tables stay as they are -/

/-- What a shop can be asked. -/
inductive Call where
  | report (mode : Mode) (request : Json)
  | statement (s : Statement)

/-- The tables of a shop after a call. -/
def afterCall (shop : Shop) : Call → Shop
  | .report mode request => (run (answer Shop.database mode request) shop).2
  | .statement s => (run (Shop.database.execute s) shop).2

/-- The tables of a shop after some calls, one after the other. -/
def afterCalls (calls : List Call) (shop : Shop) : Shop := calls.foldl afterCall shop

/-- Statements keep a shop as it is. -/
theorem alike_execute_shop (shop : Shop) (s : Statement) :
    Alike (fun a b => a = shop ∧ b = shop) (Shop.database.execute s) (Shop.database.execute s) := by
  rintro _ _ ⟨rfl, rfl⟩
  exact ⟨rfl, rfl, rfl⟩

/-- No report changes a shop. -/
theorem run_answer_shop_snd (shop : Shop) (mode : Mode) (request : Json) :
    (run (answer Shop.database mode request) shop).2 = shop :=
  (Alike.answer (alike_execute_shop shop) mode request shop shop ⟨rfl, rfl⟩).2.1

/-- Asking the queries of a plan does not, either. -/
theorem run_searchEntries_shop_snd (shop : Shop) (plan : List PlannedQuery) :
    (run (searchEntries Shop.database plan) shop).2 = shop :=
  (Alike.searchEntries (alike_execute_shop shop) plan shop shop ⟨rfl, rfl⟩).2.1

/-- No call does. -/
theorem afterCall_eq (shop : Shop) (call : Call) : afterCall shop call = shop := by
  cases call with
  | report mode request => exact run_answer_shop_snd shop mode request
  | statement s => rfl

/-- **No sequence of calls changes a shop.** -/
theorem afterCalls_eq (shop : Shop) (calls : List Call) : afterCalls calls shop = shop := by
  induction calls with
  | nil => rfl
  | cons call rest ih =>
    unfold afterCalls at ih ⊢
    rw [List.foldl_cons, afterCall_eq, ih]

/-! ## 2. Plans of several items -/

variable {σ : Type}

/-- A plan in two parts is asked part by part, by induction on the first. -/
theorem searchEntries_append (db : Database σ) (first second : List PlannedQuery) :
    searchEntries db (first ++ second) = (do
      let before ← searchEntries db first
      let after ← searchEntries db second
      return before ++ after) := by
  induction first with
  | nil => simp [searchEntries]
  | cons query rest ih => simp [searchEntries, ih]

/-- The entries that a shop has for a plan. -/
def entriesOf (shop : Shop) (plan : List PlannedQuery) : Except Error (List SearchEntry) :=
  (run (searchEntries Shop.database plan) shop).1

/-- A shop answers a plan in two parts as it answers the parts. -/
theorem entriesOf_append (shop : Shop) (first second : List PlannedQuery) :
    entriesOf shop (first ++ second) = (do
      let before ← entriesOf shop first
      let after ← entriesOf shop second
      return before ++ after) := by
  have hfirst := run_searchEntries_shop_snd shop first
  have hsecond := run_searchEntries_shop_snd shop second
  unfold entriesOf
  rw [searchEntries_append, run_bind_fst_of_unchanged hfirst]
  refine congrArg _ (funext fun before => ?_)
  rw [run_bind_fst_of_unchanged hsecond]
  rfl

/-! ## 3. Lists of items -/

/-- A list that is not empty has its items. -/
theorem items_relist {list : List Json} (h : list ≠ []) :
    Plan.items (Plan.relist list) = .ok list := by
  obtain ⟨item, rest, rfl⟩ := List.exists_cons_of_ne_nil h
  rfl

/-- A request that lists items has a plan exactly where there are items and all of them have one. -/
theorem ofRequest_relist_eq_ok_iff {list : List Json} {plan : List PlannedQuery} :
    Plan.ofRequest (Plan.relist list) = .ok plan ↔
      list ≠ [] ∧ list.mapM Plan.ofItem = .ok plan := by
  unfold Plan.ofRequest
  cases list with
  | nil =>
    have hitems : Plan.items (Plan.relist []) = .error .missingCriterias := rfl
    simp [hitems, bind, Except.bind]
  | cons item rest => simp [items_relist (List.cons_ne_nil item rest), bind, Except.bind]

/-- The plan of two lists of items is the plans of both. -/
theorem ofRequest_relist_append {xs ys : List Json} {first second : List PlannedQuery}
    (hxs : Plan.ofRequest (Plan.relist xs) = .ok first)
    (hys : Plan.ofRequest (Plan.relist ys) = .ok second) :
    Plan.ofRequest (Plan.relist (xs ++ ys)) = .ok (first ++ second) := by
  rw [ofRequest_relist_eq_ok_iff] at hxs hys ⊢
  obtain ⟨hne, hfirst⟩ := hxs
  obtain ⟨-, hsecond⟩ := hys
  refine ⟨List.append_ne_nil_of_left_ne_nil hne ys, ?_⟩
  rw [List.mapM_append, hfirst, hsecond]
  rfl

/-- What comes of a search for items over a shop. -/
def searchFor (shop : Shop) (list : List Json) : Except Error Document :=
  (run (search Shop.database (Plan.relist list)) shop).1

/-- A search for a list comes to the entries of its plan. -/
theorem searchFor_of_plan {list : List Json} {plan : List PlannedQuery}
    (h : Plan.ofRequest (Plan.relist list) = .ok plan) (shop : Shop) :
    searchFor shop list = (entriesOf shop plan).map .search := by
  unfold searchFor
  rw [run_search_of_plan h, run_bind_fst_of_unchanged (run_searchEntries_shop_snd shop plan)]
  exact bind_pure_comp _ _

/-- **A search for the items of two lists finds what the searches for both find.** It succeeds
exactly where both succeed, with the entries of the first before those of the second; otherwise it
has the error of the first, or that of the second if the first succeeds. No call changes the shop,
so what comes of a request is the same after any sequence of calls. -/
theorem search_append (shop : Shop) {xs ys : List Json} {first second : List PlannedQuery}
    (hxs : Plan.ofRequest (Plan.relist xs) = .ok first)
    (hys : Plan.ofRequest (Plan.relist ys) = .ok second) :
    ((∃ document, searchFor shop (xs ++ ys) = .ok document) ↔
      (∃ document, searchFor shop xs = .ok document) ∧
        ∃ document, searchFor shop ys = .ok document) ∧
    (∀ document, searchFor shop (xs ++ ys) = .ok document ↔
      ∃ before after, searchFor shop xs = .ok (.search before) ∧
        searchFor shop ys = .ok (.search after) ∧ document = .search (before ++ after)) ∧
    (∀ e, searchFor shop (xs ++ ys) = .error e ↔
      searchFor shop xs = .error e ∨
        (∃ document, searchFor shop xs = .ok document) ∧ searchFor shop ys = .error e) ∧
    (∀ calls, afterCalls calls shop = shop) ∧
    ∀ calls mode request, run (answer Shop.database mode request) (afterCalls calls shop) =
      run (answer Shop.database mode request) shop := by
  have hboth := searchFor_of_plan (ofRequest_relist_append hxs hys) shop
  rw [entriesOf_append] at hboth
  rw [hboth, searchFor_of_plan hxs, searchFor_of_plan hys]
  refine ⟨?_, ?_, ?_, fun calls => afterCalls_eq shop calls, ?_⟩
  · simp only [map_eq_ok_iff]
    cases entriesOf shop first <;> cases entriesOf shop second <;>
      simp [bind, Except.bind, pure, Except.pure]
  · intro document
    simp only [map_eq_ok_iff, bind_eq_ok_iff]
    constructor
    · rintro ⟨_, ⟨before, hbefore, after, hafter, h⟩, rfl⟩
      cases h
      exact ⟨before, after, ⟨before, hbefore, rfl⟩, ⟨after, hafter, rfl⟩, rfl⟩
    · rintro ⟨before, after, hfound, hlater, rfl⟩
      obtain ⟨_, hbefore, ⟨⟩⟩ := hfound
      obtain ⟨_, hafter, ⟨⟩⟩ := hlater
      exact ⟨_, ⟨_, hbefore, _, hafter, rfl⟩, rfl⟩
  · intro e
    simp only [map_eq_error_iff, map_eq_ok_iff, bind_eq_error_iff]
    cases entriesOf shop first <;> cases entriesOf shop second <;> simp [pure, Except.pure]
  · intro calls mode request
    rw [afterCalls_eq]

def oneSmith : Shop := Shop.empty.addCustomer ⟨1, "Smith", "John"⟩

def smiths : Json := .object [("lastName", .string "Smith")]

def fewerThanNone : Json := .object [("badCustomers", .ofInt64 (-1))]

/-- The customers called Smith are found, and the limit of the later item is still refused. -/
theorem search_append_negative_limit :
    (∃ first, Plan.ofRequest (Plan.relist [smiths]) = .ok first) ∧
      (∃ second, Plan.ofRequest (Plan.relist [fewerThanNone]) = .ok second) ∧
      searchFor oneSmith ([smiths] ++ [fewerThanNone]) =
        .error QueryFault.negativeLimit.error := by
  have hsmiths : Plan.ofRequest (Plan.relist [smiths]) =
      .ok [⟨smiths, .lastName, ⟨.lastName, [.text "Smith"]⟩⟩] := rfl
  have hlimit : Plan.ofRequest (Plan.relist [fewerThanNone]) =
      .ok [⟨fewerThanNone, .badCustomers, ⟨.badCustomers, [.int (-1)]⟩⟩] := rfl
  have hfound : ∃ document, searchFor oneSmith [smiths] = .ok document := by
    have hok : (searchFor oneSmith [smiths]).isOk = true := by decide +kernel
    cases h : searchFor oneSmith [smiths] with
    | ok document => exact ⟨document, rfl⟩
    | error e =>
      rw [h] at hok
      cases hok
  have hrefused : searchFor oneSmith [fewerThanNone] = .error QueryFault.negativeLimit.error := rfl
  exact ⟨⟨_, hsmiths⟩, ⟨_, hlimit⟩,
    ((search_append oneSmith hsmiths hlimit).2.2.1 _).mpr (Or.inr ⟨hfound, hrefused⟩)⟩

end ShopQuery.Report
