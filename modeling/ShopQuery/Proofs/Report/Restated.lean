import ShopQuery.Proofs.Report.Concatenation
import ShopQuery.Proofs.Request.Restated

/-!
# Searches for requests stated in another way

What a search asks and finds depends on the statements of its plan alone (`searchEntries_eq`); the
items of the request are only repeated beside it. So a search finds the same in every way of stating
a request, and repeats each item as it is stated (`search_restated`).

## How the proof goes

`searchEntries_eq` takes a search apart: the statements are asked, and then the items are put beside
the names. Two plans with the same statements differ in the second part only. That their items are
reorderings of each other is carried over to the entries pair by pair (`sameEntry_zipWith`).

That the plans have the same statements is a fact about requests (`Plan.ofRequest_restated`). It
needs distinct keys in one of the two requests; the other then has them too, since no order makes a
key repeat. The outcome is compared whole: entries that belong together, or the same error, and the
same state of the database in either case. So the statement holds of any database, also of one that
replies differently when it is asked again.
-/

namespace ShopQuery.Report

open Database

variable {σ : Type}

/-! ## 1. Statements and items -/

def askNames (db : Database σ) (statement : Statement) : Dialogue σ (List CustomerName) := do
  let result ← db.execute statement
  readValue (customerNames result)

/-- The statements are asked one after the other, and then the items are put beside the names. -/
theorem searchEntries_eq (db : Database σ) (plan : List PlannedQuery) :
    searchEntries db plan = (do
      let names ← (plan.map (·.statement)).mapM (askNames db)
      return List.zipWith SearchEntry.mk (plan.map (·.item)) names) := by
  induction plan with
  | nil => simp [searchEntries]
  | cons query rest ih => simp [searchEntries, askNames, ih]

/-- What is made of a value at the end changes the outcome only. -/
theorem run_map {α β : Type} (f : α → β) (dialogue : Dialogue σ α) (state : σ) :
    run (f <$> dialogue) state = ((run dialogue state).1.map f, (run dialogue state).2) := by
  rw [← bind_pure_comp, run_bind]
  generalize run dialogue state = reached
  obtain ⟨outcome, left⟩ := reached
  cases outcome <;> rfl

/-! ## 2. Plans -/

/-- Two entries have the same names, for items that differ in the order of members alone. -/
structure SameEntry (entry other : SearchEntry) : Prop where
  criteria : entry.criteria.Reordered other.criteria
  results : entry.results = other.results

/-- Two documents of searches differ in the order of members in their criteria alone. -/
inductive SameFindings : Document → Document → Prop
  | search {entries others : List SearchEntry} (entry : List.Forall₂ SameEntry entries others) :
    SameFindings (.search entries) (.search others)

/-- Items that belong together make entries that do, beside the same names. -/
theorem sameEntry_zipWith {items moved : List Json} (h : List.Forall₂ Json.Reordered items moved)
    (names : List (List CustomerName)) :
    List.Forall₂ SameEntry (List.zipWith SearchEntry.mk items names)
      (List.zipWith SearchEntry.mk moved names) := by
  induction h generalizing names with
  | nil => exact .nil
  | cons hitem _ ih =>
    cases names with
    | nil => exact .nil
    | cons own others => exact .cons ⟨hitem, rfl⟩ (ih others)

/-- Plans whose queries ask the same find the same names. -/
theorem run_searchEntries_of_sameQuery (db : Database σ) {plan plan' : List PlannedQuery}
    (h : List.Forall₂ Plan.SameQuery plan plan') (state : σ) :
    SameOutcome (List.Forall₂ SameEntry) (run (searchEntries db plan) state).1
        (run (searchEntries db plan') state).1 ∧
      (run (searchEntries db plan) state).2 = (run (searchEntries db plan') state).2 := by
  have hitems : List.Forall₂ Json.Reordered (plan.map (·.item)) (plan'.map (·.item)) :=
    List.forall₂_map_left_iff.mpr (List.forall₂_map_right_iff.mpr (h.imp fun _ _ hq => hq.item))
  have hstatements : plan.map (·.statement) = plan'.map (·.statement) := by
    rw [← List.forall₂_eq_eq_eq, List.forall₂_map_left_iff, List.forall₂_map_right_iff]
    exact h.imp fun _ _ hquery => hquery.statement
  rw [searchEntries_eq, searchEntries_eq, hstatements]
  simp only [bind_pure_comp, run_map, and_true]
  have hasked := SameOutcome.refl (R := Eq) (fun _ => rfl)
    (run ((plan'.map (·.statement)).mapM (askNames db)) state).1
  exact hasked.map fun names _ heq => heq ▸ sameEntry_zipWith hitems names

/-! ## 3. Requests -/

/-- **A search finds the same in every way of stating a request.** A request whose members, and
those of whose items, stand in another order, and which has members besides its items, is planned
with the same kinds and the same statements in the same order, or fails with the same error. From
any database it gets the same document but for the order of members in the items that are repeated,
or the same error, and it leaves the same state. Requests that are read from texts repeat no key
(`Json.distinctKeys_of_read`). -/
theorem search_restated (db : Database σ) (state : σ) {request other : Json}
    (h : Plan.Restated request other) (hother : other.DistinctKeys) :
    SameOutcome (List.Forall₂ Plan.SameQuery) (Plan.ofRequest request) (Plan.ofRequest other) ∧
    SameOutcome SameFindings (run (search db request) state).1 (run (search db other) state).1 ∧
    (run (search db request) state).2 = (run (search db other) state).2 := by
  have hplans := Plan.ofRequest_restated h hother
  refine ⟨hplans, ?_⟩
  unfold search
  generalize Plan.ofRequest request = planned at hplans
  generalize Plan.ofRequest other = planned' at hplans
  cases hplans with
  | error e =>
    rw [run_pureValue_error_bind]
    exact ⟨.error e, rfl⟩
  | ok hqueries =>
    obtain ⟨hentries, hstates⟩ := run_searchEntries_of_sameQuery db hqueries state
    simp only [pureValue_ok, pure_bind, bind_pure_comp, run_map]
    exact ⟨hentries.map fun _ _ => .search, hstates⟩

/-- The buyers of milk and the customers called Smith. -/
def milkAndSmiths : Json :=
  .object [("criterias", .array
    [.object [("productName", .string "Milk"), ("minTimes", .ofInt64 2)], smiths])]

/-- The same with a note in front, and with the keys of the first item the other way round. -/
def notedMilkAndSmiths : Json :=
  .object [("note", .null), ("criterias", .array [Plan.milkBuyers, smiths])]

/-- The note and the order of the keys make no difference. -/
theorem search_restated_note :
    (Plan.Restated milkAndSmiths notedMilkAndSmiths ∧ notedMilkAndSmiths.DistinctKeys) ∧
      SameOutcome (List.Forall₂ Plan.SameQuery) (Plan.ofRequest milkAndSmiths)
        (Plan.ofRequest notedMilkAndSmiths) ∧
      SameOutcome SameFindings (run (search Shop.database milkAndSmiths) oneSmith).1
        (run (search Shop.database notedMilkAndSmiths) oneSmith).1 ∧
      (run (search Shop.database milkAndSmiths) oneSmith).2 =
        (run (search Shop.database notedMilkAndSmiths) oneSmith).2 := by
  have hitems : List.Forall₂ Json.Reordered
      [.object [("productName", .string "Milk"), ("minTimes", .ofInt64 2)], smiths]
      [Plan.milkBuyers, smiths] :=
    .cons (.of_perm (.swap _ _ _)) (.cons (.refl _) .nil)
  have hrestated : Plan.Restated milkAndSmiths notedMilkAndSmiths :=
    @Plan.Restated.of_items [] [] [("note", .null)] _ _ _ hitems (by simp [Json.keysOf])
      (.swap _ _ _)
  have hdistinct : notedMilkAndSmiths.DistinctKeys := Json.collapse_eq_self_iff.mp rfl
  exact ⟨⟨hrestated, hdistinct⟩, search_restated Shop.database oneSmith hrestated hdistinct⟩

end ShopQuery.Report
