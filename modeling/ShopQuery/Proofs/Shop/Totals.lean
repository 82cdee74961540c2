import ShopQuery.Proofs.FirstFailure
import ShopQuery.Proofs.Number.CheckedSum
import ShopQuery.Proofs.Shop.Execute
import ShopQuery.Proofs.Shop.Groups

/-!
# When totals fit

`prices` lists what a customer's selected purchases cost, in the order of the purchases. A statement
that adds them up for each customer fails exactly where some partial sum of some customer does not
fit, and succeeds in every other case (`execute_overflow_iff`). So a total that fits can be refused:
that a sum goes out of range and comes back is not seen.

## How the proof goes

There are two statements with totals, and they differ in the purchases that they select and in what
they make of the totals. `Statement.selection?` is the first; the second is left open
(`execute_of_selection`). So one proof serves both. The totals of groups are all there or the first
missing one is the fault (`totals_eq_ok_iff`, `totals_eq_error_iff`), and a group lacks its total
just where its rows have a partial sum that does not fit (`exists_group_without_total_iff`).

Partial sums are said of stored customers and not of groups. A customer without purchases has no
group, but the only partial sum there is zero, which fits. A record with a repeated number stands
for the same purchases as the first one with it.

That a total does not fit is one of the partial sums not fitting (`TotalOverflows`,
`partialSumOverflows_of_totalOverflows`). The converse fails, for prices may be negative, and
`execute_overflow_although_total_fits` is a shop where it does.
-/

namespace ShopQuery

namespace Shop

/-! ## 1. Prices -/

/-- The prices of a customer's selected purchases of stored products, in order. -/
def prices (shop : Shop) (select : Purchase → Bool) (id : Int64) : List Int64 :=
  (shop.purchases.filter fun p => p.customer == id && select p).filterMap fun p =>
    (shop.product? p.product).map (·.price)

/-- The rows of a stored customer have the prices of the customer's purchases. -/
theorem map_price_rowsOf {shop : Shop} {id : Int64} {c : Customer} (h : shop.customer? id = some c)
    (select : Purchase → Bool) :
    (Group.rowsOf (shop.joined fun p _ => select p) id).map (·.2.price) =
      shop.prices select id := by
  rw [rowsOf_joined h, List.map_filterMap]
  unfold prices
  rw [List.filterMap_filter, List.filterMap_filter]
  congr 1
  funext p
  by_cases hid : p.customer = id <;> by_cases hselect : select p <;>
    cases shop.product? p.product <;> simp [hid, hselect, Option.filter]

/-- Some partial sum of what some stored customer's selected purchases cost does not fit. -/
def PartialSumOverflows (shop : Shop) (select : Purchase → Bool) : Prop :=
  ∃ c ∈ shop.customers, ∃ n, ¬ Fits (exactSum ((shop.prices select c.id).take n))

/-- What some stored customer's selected purchases cost altogether does not fit. -/
def TotalOverflows (shop : Shop) (select : Purchase → Bool) : Prop :=
  ∃ c ∈ shop.customers, ¬ Fits (exactSum (shop.prices select c.id))

theorem partialSumOverflows_of_totalOverflows {shop : Shop} {select : Purchase → Bool}
    (h : shop.TotalOverflows select) : shop.PartialSumOverflows select := by
  obtain ⟨c, hc, htotal⟩ := h
  exact ⟨c, hc, (shop.prices select c.id).length, by rwa [List.take_length]⟩

/-! ## 2. Totals of groups -/

/-- Groups without a total are those of stored customers with a partial sum that does not fit. -/
theorem exists_group_without_total_iff {shop : Shop} {select : Purchase → Bool} :
    (∃ g ∈ group (shop.joined fun p _ => select p), g.total = none) ↔
      shop.PartialSumOverflows select := by
  constructor
  · rintro ⟨g, hg, htotal⟩
    obtain ⟨hstored, -, hsum⟩ := of_mem_group_joined hg
    rw [map_price_rowsOf hstored, htotal] at hsum
    exact ⟨g.customer, mem_of_customer? hstored, sumChecked_eq_none_iff.mp hsum.symm⟩
  · rintro ⟨c, hc, n, hn⟩
    obtain ⟨first, hfirst⟩ := exists_customer?_of_mem hc
    -- Without a row the only partial sum is zero, and zero fits.
    have hrows : Group.rowsOf (shop.joined fun p _ => select p) c.id ≠ [] := by
      intro hnil
      have hprices := map_price_rowsOf hfirst select
      rw [hnil] at hprices
      rw [← hprices] at hn
      exact hn (by simpa using fits_toInt 0)
    have hid := id_of_customer? hfirst
    rw [← hid] at hfirst hrows
    obtain ⟨g, hg, rfl⟩ := exists_mem_group_joined_iff.mpr ⟨hfirst, hrows⟩
    refine ⟨g, hg, ?_⟩
    rw [(of_mem_group_joined hg).2.2, map_price_rowsOf hfirst, hid]
    exact sumChecked_eq_none_iff.mpr ⟨n, hn⟩

/-- Totals are there where every group has one, and then they are these. -/
theorem totals_eq_ok_iff {groups : List Group} {sums : List (Customer × Int64)} :
    totals groups = .ok sums ↔
      List.Forall₂ (fun g s => g.customer = s.1 ∧ g.total = some s.2) groups sums := by
  unfold totals
  rw [mapM_eq_ok_iff]
  constructor
  · intro h
    refine h.imp ?_
    rintro ⟨customer, count, total⟩ s hs
    cases total with
    | none => cases hs
    | some total =>
      cases hs
      exact ⟨rfl, rfl⟩
  · intro h
    refine h.imp ?_
    rintro g ⟨_, total⟩ ⟨rfl, htotal⟩
    rw [htotal]

/-- Totals fail only where a group has none, and then always in the same way. -/
theorem totals_eq_error_iff {groups : List Group} {fault : QueryFault} :
    totals groups = .error fault ↔
      fault = .bigintOutOfRange ∧ ∃ g ∈ groups, g.total = none := by
  have hfault : ∀ fault, totals groups = .error fault →
      fault = .bigintOutOfRange ∧ ∃ g ∈ groups, g.total = none := by
    intro fault h
    unfold totals at h
    obtain ⟨before, g, after, rfl, -, hg⟩ := (mapM_eq_error_iff _ _ _).mp h
    split at hg
    · cases hg
    · rename_i htotal
      cases hg
      exact ⟨rfl, g, by simp, htotal⟩
  refine ⟨hfault fault, ?_⟩
  rintro ⟨rfl, g, hg, htotal⟩
  -- Every failure is this one, and a success would have a total for the group.
  cases h : totals groups with
  | error other => rw [(hfault other h).1]
  | ok sums =>
    unfold totals at h
    obtain ⟨s, -, hs⟩ := exists_of_forall₂_of_mem ((mapM_eq_ok_iff _ _ _).mp h) hg
    rw [htotal] at hs
    cases hs

/-- Totals belong to the customers of their groups. -/
theorem map_fst_totals {groups : List Group} {sums : List (Customer × Int64)}
    (h : totals groups = .ok sums) : sums.map Prod.fst = groups.map Group.customer := by
  have hpairs := totals_eq_ok_iff.mp h
  clear h
  induction hpairs with
  | nil => rfl
  | cons hgroup _ ih => rw [List.map_cons, List.map_cons, ih, hgroup.1]

section

variable {shop : Shop} {select : Purchase → Bool} {sums : List (Customer × Int64)}
  (h : totals (group (shop.joined fun p _ => select p)) = .ok sums)
include h

/-- A total of a join is the exact one of a stored customer who bought something. -/
theorem of_mem_totals {s : Customer × Int64} (hs : s ∈ sums) :
    shop.customer? s.1.id = some s.1 ∧ 0 < shop.boughtCount (fun p _ => select p) s.1.id ∧
      s.2.toInt = exactSum (shop.prices select s.1.id) := by
  obtain ⟨g, hg, hcustomer, htotal⟩ := exists_of_forall₂_of_mem (totals_eq_ok_iff.mp h).flip hs
  obtain ⟨hstored, hbought⟩ := mem_map_customer_group_joined.mp (List.mem_map_of_mem hg)
  have hprices := (of_mem_group_joined hg).2.2
  rw [map_price_rowsOf hstored, htotal, hcustomer] at hprices
  rw [hcustomer] at hstored hbought
  exact ⟨hstored, hbought, (sumChecked_eq_some_iff.mp hprices.symm).2⟩

/-- Every stored customer who bought something has a total. -/
theorem exists_mem_totals {c : Customer} (hstored : shop.customer? c.id = some c)
    (hbought : 0 < shop.boughtCount (fun p _ => select p) c.id) :
    ∃ total, (c, total) ∈ sums := by
  obtain ⟨g, hg, rfl⟩ := List.mem_map.mp (mem_map_customer_group_joined.mpr ⟨hstored, hbought⟩)
  obtain ⟨⟨_, total⟩, hs, rfl, -⟩ := exists_of_forall₂_of_mem (totals_eq_ok_iff.mp h) hg
  exact ⟨total, hs⟩

end

/-- The evaluators of totals have no other fault. -/
theorem fault_of_spending {shop : Shop} {least greatest : Int64} {fault : QueryFault}
    (h : shop.spending least greatest = .error fault) : fault = .bigintOutOfRange := by
  unfold spending at h
  rcases bind_eq_error_iff.mp h with h | ⟨_, -, h⟩
  · exact (totals_eq_error_iff.mp h).1
  · cases h

theorem fault_of_weekdaySpending {shop : Shop} {start finish : Date} {fault : QueryFault}
    (h : shop.weekdaySpending start finish = .error fault) : fault = .bigintOutOfRange := by
  unfold weekdaySpending at h
  rcases bind_eq_error_iff.mp h with h | ⟨_, -, h⟩
  · exact (totals_eq_error_iff.mp h).1
  · cases h

end Shop

/-! ## 3. Statements with totals -/

/-- The purchases that a statement adds up, where it is one that does and has its parameters. -/
def Statement.selection? : Statement → Option (Purchase → Bool)
  | ⟨.expenseRange, [.int _, .int _]⟩ => some fun _ => true
  | ⟨.customerExpenses, [.date start, .date finish]⟩ => some (Shop.onWeekdayIn start finish)
  | _ => none

namespace Shop

/-- A statement that adds up purchases makes its rows from the totals of their groups. -/
theorem execute_of_selection {statement : Statement} {select : Purchase → Bool}
    (h : statement.selection? = some select) (shop : Shop) :
    ∃ rows : List (Customer × Int64) → List Row,
      shop.execute statement = resultOf statement.template
        ((totals (group (shop.joined fun p _ => select p))).map rows) := by
  unfold Statement.selection? at h
  split at h
  · cases h
    rw [execute_expenseRange]
    exact ⟨_, congrArg _ (map_bind_pure _ _ _)⟩
  · cases h
    rw [execute_customerExpenses]
    exact ⟨_, congrArg _ (map_bind_pure _ _ _)⟩
  · cases h

/-- Such a statement fails where a partial sum does not fit, and succeeds in every other case. -/
theorem execute_selection_cases {statement : Statement} {select : Purchase → Bool}
    (h : statement.selection? = some select) (shop : Shop) :
    (shop.PartialSumOverflows select ∧
      shop.execute statement = .error (.query "bigint out of range")) ∨
    (¬ shop.PartialSumOverflows select ∧ ∃ result, shop.execute statement = .ok result) := by
  obtain ⟨rows, hexecute⟩ := execute_of_selection h shop
  rw [hexecute, ← exists_group_without_total_iff]
  cases htotals : totals (group (shop.joined fun p _ => select p)) with
  | error fault =>
    obtain ⟨rfl, hgroup⟩ := totals_eq_error_iff.mp htotals
    exact Or.inl ⟨hgroup, rfl⟩
  | ok sums =>
    refine Or.inr ⟨fun hgroup => ?_, _, rfl⟩
    rw [totals_eq_error_iff.mpr ⟨rfl, hgroup⟩] at htotals
    cases htotals

/-- **Overflow is reported exactly where a partial sum does not fit.** So it is reported exactly
where a total does not fit unless every total fits and the sum up to some purchase does not. -/
theorem execute_overflow_iff {statement : Statement} {select : Purchase → Bool}
    (h : statement.selection? = some select) (shop : Shop) :
    (shop.execute statement = .error (.query "bigint out of range") ↔
      shop.PartialSumOverflows select) ∧
    ((∃ result, shop.execute statement = .ok result) ↔ ¬ shop.PartialSumOverflows select) ∧
    ((shop.execute statement = .error (.query "bigint out of range") ↔
        shop.TotalOverflows select) ↔
      ¬ (shop.PartialSumOverflows select ∧ ¬ shop.TotalOverflows select)) := by
  rcases execute_selection_cases h shop with ⟨hpartial, herror⟩ | ⟨hpartial, result, hresult⟩
  · rw [herror]
    simp [hpartial]
  · have htotal : ¬ shop.TotalOverflows select := fun htotal =>
      hpartial (partialSumOverflows_of_totalOverflows htotal)
    rw [hresult]
    simp [hpartial, htotal]

/-- One customer with purchases, all on one day, of the products with these prices. -/
def ofPrices (prices : List Int64) : Shop where
  customers := [⟨1, "Smith", "John"⟩]
  products := prices.map fun price => ⟨price, "Thing", price⟩
  purchases := prices.map fun price => ⟨1, price, Date.first⟩

/-- Twice the greatest price is too much. -/
theorem execute_overflow_of_two_greatest :
    (ofPrices [Int64.maxValue, Int64.maxValue]).execute ⟨.expenseRange, [.int 0, .int 5]⟩ =
      .error (.query "bigint out of range") :=
  (execute_overflow_iff rfl _).1.mpr ⟨⟨1, "Smith", "John"⟩, by decide, 2, by decide⟩

/-- The greatest price, one more and one less add up to the greatest price, and are refused. -/
theorem execute_overflow_although_total_fits :
    (ofPrices [Int64.maxValue, 1, -1]).execute ⟨.expenseRange, [.int 0, .int Int64.maxValue]⟩ =
      .error (.query "bigint out of range") ∧
    exactSum ((ofPrices [Int64.maxValue, 1, -1]).prices (fun _ => true) 1) =
      Int64.maxValue.toInt ∧
    ¬ (ofPrices [Int64.maxValue, 1, -1]).TotalOverflows fun _ => true := by
  refine ⟨rfl, by decide, ?_⟩
  rintro ⟨c, hc, hfits⟩
  rw [List.mem_singleton.mp hc] at hfits
  exact hfits (by decide)

end Shop

end ShopQuery
