import ShopQuery.Proofs.Shop.Ranking
import ShopQuery.Proofs.Sql.Select

/-!
# The customers with the fewest purchases, as a query

Where customers have different numbers, the groups of the query are the customers with purchases
(`perm_groups_badCustomers`), and it has one answer: the first of them in the order of their
purchases (`answers_badCustomers_iff`). The query joins no products, so it counts the purchases of
products that are not stored, which the evaluator leaves out (`badCustomers_agree_iff`).

## How the proof goes

The query is followed clause by clause. The join gives the rows of each customer, one for each
purchase (`joined_badCustomers`). Grouping by names and number gives these rows back, customer by
customer (`filter_joined_badCustomers`). The keys of the order compare the number of rows, which is
the number of purchases, and then the columns of the customer, so they compare as rankings do
(`compareGroups_customerRows`). As only equal customers are equal in that order, the query leaves no
choice to the database (`order_badCustomers_iff`), and its answers are the prefixes of the ranking
of the shop (`Shop.buyers`).

The evaluator's answers are the prefixes of the ranking of the shop without dangling purchases. So
the two are compared as lists of names, up to the limit. They agree for every limit if no stored
customer has a dangling purchase, which is what a database with foreign keys would see to.

## Why the conditions are there

* Different numbers are what a primary key grants. With a repeated one the query would have groups
  for both records, and the evaluator knows only the first.
* With a negative limit neither has an answer to compare.
-/

namespace ShopQuery

/-! ## 1. Customers of different numbers -/

namespace Shop

/-- No two customers have the same number. -/
def DistinctCustomers (shop : Shop) : Prop := (shop.customers.map Customer.id).Nodup

theorem customer?_eq_some_iff {shop : Shop} (hids : shop.DistinctCustomers) {c : Customer} :
    shop.customer? c.id = some c ↔ c ∈ shop.customers := by
  refine ⟨mem_of_customer?, fun hc => ?_⟩
  obtain ⟨first, hfirst⟩ := exists_customer?_of_mem hc
  rw [hfirst, List.inj_on_of_nodup_map hids (mem_of_customer? hfirst) hc (id_of_customer? hfirst)]

end Shop

namespace Sql

variable {shop : Shop}

/-! ## 2. Joined rows -/

/-- The joined rows of a customer, one for each purchase. -/
def customerRows (shop : Shop) (c : Customer) : List JoinedRow :=
  (shop.purchases.filter (·.customer == c.id)).map fun p => [.customer c, .purchase p]

theorem length_customerRows (shop : Shop) (c : Customer) :
    (customerRows shop c).length = shop.purchaseCount c.id := by
  rw [customerRows, List.length_map, ← List.countP_eq_length_filter, Shop.purchaseCount]

theorem equals_int (m n : Int64) : equals (.int m) (.int n) = (n == m) := by
  simp [equals, Bool.beq_comm, eq_comm]

/-- Joining a customer with all purchases leaves the customer's own. -/
theorem filter_pairs (shop : Shop) (c : Customer) :
    ((Table.purchases.records shop).map ([Record.customer c] ++ [·])).filter (fun joined =>
      equals (Column.customerId.cell joined) (Column.purchaseCustomer.cell joined)) =
      customerRows shop c := by
  rw [Table.records, List.map_map, List.filter_map]
  have hmatch : (fun joined => equals (Column.customerId.cell joined)
      (Column.purchaseCustomer.cell joined)) ∘ ([Record.customer c] ++ [·]) ∘ Record.purchase =
        fun p : Purchase => p.customer == c.id := by
    funext p
    exact equals_int _ _
  rw [hmatch]
  rfl

/-- The query joins each customer with the customer's purchases. -/
theorem joined_badCustomers (shop : Shop) :
    badCustomers.joined shop = shop.customers.flatMap (customerRows shop) := by
  simp only [badCustomers, Select.joined, List.foldl_cons, List.foldl_nil, Join.rows]
  rw [Table.records, List.flatMap_map, List.flatMap_map]
  congr 1
  funext c
  exact filter_pairs shop c

/-- The cells by which the rows of a customer are grouped. -/
def customerCells (c : Customer) : List Cell :=
  [.text c.lastName, .text c.firstName, .int c.id]

theorem groupCells_of_mem_customerRows {c : Customer} {row : JoinedRow}
    (h : row ∈ customerRows shop c) : badCustomers.groupCells row = customerCells c := by
  obtain ⟨p, _, rfl⟩ := List.mem_map.mp h
  rfl

theorem customerCells_inj {a b : Customer} : customerCells a = customerCells b ↔ a = b := by
  obtain ⟨id, lastName, firstName⟩ := a
  obtain ⟨id', lastName', firstName'⟩ := b
  simp [customerCells, and_comm, and_left_comm]

/-- The group of a customer's cells is made of the customer's rows. -/
theorem filter_joined_badCustomers (hids : shop.DistinctCustomers) {c : Customer}
    (hc : c ∈ shop.customers) :
    ((badCustomers.joined shop).filter fun row =>
      badCustomers.groupCells row == customerCells c) = customerRows shop c := by
  have hown : (customerRows shop c).filter (fun row =>
      badCustomers.groupCells row == customerCells c) = customerRows shop c := by
    refine List.filter_eq_self.mpr fun row hrow => ?_
    rw [groupCells_of_mem_customerRows hrow, beq_self_eq_true]
  have hother : ∀ d, d ≠ c → (customerRows shop d).filter (fun row =>
      badCustomers.groupCells row == customerCells c) = [] := by
    intro d hd
    refine List.filter_eq_nil_iff.mpr fun row hrow => ?_
    rw [groupCells_of_mem_customerRows hrow, beq_iff_eq, customerCells_inj]
    exact hd
  obtain ⟨before, after, hsplit⟩ := List.append_of_mem hc
  -- The customer stands once in the table, so only its own rows are left.
  have hnodup : (before ++ c :: after).Nodup := hsplit ▸ hids.of_map
  have hnot := (List.nodup_cons.mp (List.nodup_middle.mp hnodup)).1
  rw [joined_badCustomers, hsplit, List.filter_flatMap, List.flatMap_append, List.flatMap_cons,
    hown, List.flatMap_eq_nil_iff.mpr fun d hd => hother d ?_,
    List.flatMap_eq_nil_iff.mpr fun d hd => hother d ?_, List.nil_append, List.append_nil]
  · rintro rfl
    exact hnot (List.mem_append_right _ hd)
  · rintro rfl
    exact hnot (List.mem_append_left _ hd)

/-! ## 3. Groups -/

theorem mem_buyers_iff (hids : shop.DistinctCustomers) {c : Customer} :
    c ∈ shop.buyers ↔ c ∈ shop.customers ∧ customerRows shop c ≠ [] := by
  rw [shop.isRanking_buyers.mem_iff, Shop.customer?_eq_some_iff hids, ← length_customerRows,
    List.length_pos_iff]

/-- The combinations of cells are those of the customers with purchases. -/
theorem perm_groupCells_badCustomers (hids : shop.DistinctCustomers) :
    ((badCustomers.joined shop).map badCustomers.groupCells).dedup.Perm
      (shop.buyers.map customerCells) := by
  have hnodup := shop.isRanking_buyers.nodup.map fun a b => (@customerCells_inj a b).mp
  refine (List.perm_ext_iff_of_nodup (List.nodup_dedup _) hnodup).mpr fun cells => ?_
  simp only [List.mem_dedup, List.mem_map, joined_badCustomers, List.mem_flatMap,
    mem_buyers_iff hids]
  constructor
  · rintro ⟨row, ⟨c, hc, hrow⟩, rfl⟩
    exact ⟨c, ⟨hc, List.ne_nil_of_mem hrow⟩, (groupCells_of_mem_customerRows hrow).symm⟩
  · rintro ⟨c, ⟨hc, hrows⟩, rfl⟩
    obtain ⟨row, hrow⟩ := List.exists_mem_of_ne_nil _ hrows
    exact ⟨row, ⟨c, hc, hrow⟩, groupCells_of_mem_customerRows hrow⟩

/-- The groups of the query are the rows of each customer with purchases. -/
theorem perm_groups_badCustomers (hids : shop.DistinctCustomers) :
    (badCustomers.groups shop).Perm (shop.buyers.map (customerRows shop)) := by
  refine ((perm_groupCells_badCustomers hids).map _).trans (.of_eq ?_)
  rw [List.map_map]
  refine List.map_congr_left fun c hc => ?_
  exact filter_joined_badCustomers hids ((mem_buyers_iff hids).mp hc).1

/-! ## 4. Order -/

/-- The rows of a customer with purchases agree on the columns of customers. -/
theorem groupCell_customerRows {c : Customer} (hc : c ∈ shop.buyers) {column : Column} {cell : Cell}
    (h : column.cell? (.customer c) = some cell) :
    column.groupCell (customerRows shop c) = cell := by
  have hcount := ((shop.isRanking_buyers.mem_iff c).mp hc).2
  rw [← length_customerRows, List.length_pos_iff] at hcount
  obtain ⟨row, rest, hrows⟩ := List.exists_cons_of_ne_nil hcount
  obtain ⟨p, _, rfl⟩ := List.mem_map.mp (hrows ▸ List.mem_cons_self : row ∈ customerRows shop c)
  simp [Column.groupCell, Column.cell, hrows, h]

/-- The query answers with the names of the customers of its groups. -/
theorem columns_customerRows {c : Customer} (hc : c ∈ shop.buyers) :
    badCustomers.columns.map (·.groupCell (customerRows shop c)) = Shop.nameRow c := by
  simp only [badCustomers, List.map_cons, List.map_nil, Shop.nameRow]
  rw [groupCell_customerRows hc rfl, groupCell_customerRows hc rfl]

/-- The query orders its groups as their customers are ordered by their purchases. -/
theorem compareGroups_customerRows {a b : Customer} (ha : a ∈ shop.buyers) (hb : b ∈ shop.buyers) :
    badCustomers.compareGroups (customerRows shop a) (customerRows shop b) =
      shop.compareByPurchases a b := by
  simp only [badCustomers, Select.compareGroups, List.foldr_cons, List.foldr_nil, Key.compare,
    length_customerRows]
  rw [groupCell_customerRows ha rfl, groupCell_customerRows ha rfl, groupCell_customerRows ha rfl,
    groupCell_customerRows hb rfl, groupCell_customerRows hb rfl, groupCell_customerRows hb rfl]
  simp only [compareCells, Ordering.then_eq, Shop.compareByPurchases, Customer.compareByName]

theorem pairwise_customerRows (shop : Shop) :
    (shop.buyers.map (customerRows shop)).Pairwise fun a b =>
      (badCustomers.compareGroups a b).isLE := by
  refine List.pairwise_map.mpr (List.Pairwise.imp_of_mem ?_ shop.isRanking_buyers.sorted)
  intro a b ha hb hle
  rwa [compareGroups_customerRows ha hb]

/-- The keys of the query allow one order of its groups: that of the customers' purchases. -/
theorem order_badCustomers_iff (hids : shop.DistinctCustomers) {order : List (List JoinedRow)} :
    (order.Perm (badCustomers.groups shop) ∧
      order.Pairwise fun a b => (badCustomers.compareGroups a b).isLE) ↔
    order = shop.buyers.map (customerRows shop) := by
  constructor
  · rintro ⟨hperm, hsorted⟩
    have hbuyers := hperm.trans (perm_groups_badCustomers hids)
    -- The id is the last key of the order, so two groups that tie are the same customer's.
    refine hbuyers.eq_of_pairwise (fun a b ha hb hab hba => ?_) hsorted (pairwise_customerRows shop)
    obtain ⟨c, hc, rfl⟩ := List.mem_map.mp (hbuyers.mem_iff.mp ha)
    obtain ⟨d, hd, rfl⟩ := List.mem_map.mp hb
    rw [compareGroups_customerRows hc hd] at hab
    rw [compareGroups_customerRows hd hc] at hba
    rw [Std.LawfulEqCmp.eq_of_compare (Std.OrientedCmp.isLE_antisymm hab hba)]
  · rintro rfl
    exact ⟨(perm_groups_badCustomers hids).symm, pairwise_customerRows shop⟩

/-! ## 5. Answers -/

/-- The query has one answer: the names of the first buyers. -/
theorem answers_badCustomers_iff (hids : shop.DistinctCustomers) {limit : Int64}
    {rows : List Row} :
    badCustomers.Answers shop [.int limit] rows ↔
      0 ≤ limit ∧ rows = (shop.buyers.take limit.toNatClampNeg).map Shop.nameRow := by
  have hrows : ((shop.buyers.map (customerRows shop)).take limit.toNatClampNeg).map
      (fun group => badCustomers.columns.map (·.groupCell group)) =
        (shop.buyers.take limit.toNatClampNeg).map Shop.nameRow := by
    rw [← List.map_take, List.map_map]
    exact List.map_congr_left fun c hc => columns_customerRows (List.mem_of_mem_take hc)
  constructor
  · rintro ⟨n, hn, hlimit, order, hperm, hsorted, rfl⟩
    cases hn
    rw [(order_badCustomers_iff hids).mp ⟨hperm, hsorted⟩]
    exact ⟨hlimit, hrows⟩
  · rintro ⟨hlimit, rfl⟩
    obtain ⟨hperm, hsorted⟩ := (order_badCustomers_iff hids).mpr rfl
    exact ⟨limit, rfl, hlimit, _, hperm, hsorted, hrows.symm⟩

/-- The evaluator answers a limit as the query is answered for some tables. -/
def AgreesOn (tables shop : Shop) (limit : Int64) : Prop :=
  ∀ rows, shop.execute ⟨.badCustomers, [.int limit]⟩ = .ok ⟨Template.badCustomers.columns, rows⟩ ↔
    badCustomers.Answers tables [.int limit] rows

theorem agreesOn_iff {tables : Shop} (hids : tables.DistinctCustomers) {limit : Int64}
    (hlimit : 0 ≤ limit) :
    AgreesOn tables shop limit ↔
      (tables.buyers.take limit.toNatClampNeg).map Shop.nameRow =
        (shop.withoutDangling.buyers.take limit.toNatClampNeg).map Shop.nameRow := by
  unfold AgreesOn
  rw [Shop.execute_badCustomers_of_nonneg shop hlimit]
  simp only [answers_badCustomers_iff hids, hlimit, true_and, Except.ok.injEq,
    QueryResult.mk.injEq]
  constructor
  · intro h
    exact ((h _).mp rfl).symm
  · rintro h rows
    rw [h, eq_comm]

/-- **The evaluator answers as the query is answered without dangling purchases.** So it answers as
the query does exactly where these purchases change none of the names that are wanted, as where
each purchase of a stored customer is of a stored product. -/
theorem badCustomers_agree_iff (hids : shop.DistinctCustomers) {limit : Int64}
    (hlimit : 0 ≤ limit) :
    badCustomers.text = Template.badCustomers.sql ∧
    AgreesOn shop.withoutDangling shop limit ∧
    (AgreesOn shop shop limit ↔
      (shop.buyers.take limit.toNatClampNeg).map Shop.nameRow =
        (shop.withoutDangling.buyers.take limit.toNatClampNeg).map Shop.nameRow) ∧
    ((∀ p ∈ shop.purchases, (shop.customer? p.customer).isSome →
      (shop.product? p.product).isSome) → AgreesOn shop shop limit) := by
  have hpruned : shop.withoutDangling.DistinctCustomers := hids
  refine ⟨text_badCustomers, (agreesOn_iff hpruned hlimit).mpr rfl, agreesOn_iff hids hlimit,
    fun hstored => (agreesOn_iff hids hlimit).mpr ?_⟩
  rw [Shop.buyers_withoutDangling hstored]

/-- One customer with one purchase, where these products are sold. -/
def oneSale (products : List Product) : Shop where
  customers := [⟨1, "Smith", "John"⟩]
  products := products
  purchases := [⟨1, 10, Date.first⟩]

/-- The evaluator finds the buyer of a stored product. -/
theorem badCustomers_agree_of_stored_product :
    AgreesOn (oneSale [⟨10, "Tea", 5⟩]) (oneSale [⟨10, "Tea", 5⟩]) 1 :=
  (badCustomers_agree_iff (by unfold Shop.DistinctCustomers; decide) (by decide)).2.2.2 (by decide)

/-- The evaluator does not find the buyer of a product that is not stored, as the query does. -/
theorem badCustomers_misses_dangling_purchase :
    badCustomers.Answers (oneSale []) [.int 1] [[.text "Smith", .text "John"]] ∧
    (oneSale []).execute ⟨.badCustomers, [.int 1]⟩ = .ok ⟨["last_name", "first_name"], []⟩ ∧
    ¬ AgreesOn (oneSale []) (oneSale []) 1 := by
  have hanswer : badCustomers.Answers (oneSale []) [.int 1] [[.text "Smith", .text "John"]] :=
    ⟨1, rfl, by decide, _, .refl _, by decide, by decide⟩
  have hresult : (oneSale []).execute ⟨.badCustomers, [.int 1]⟩ =
      .ok ⟨["last_name", "first_name"], []⟩ := by
    have hgroup : group ((oneSale []).joined fun _ _ => true) = [] := rfl
    have hranking : (oneSale []).ranking = [] := by
      rw [Shop.ranking, hgroup, List.mergeSort_nil, List.map_nil]
    rw [Shop.execute_badCustomers, Shop.rarestBuyers, hranking]
    rfl
  refine ⟨hanswer, hresult, fun h => ?_⟩
  have hagrees := (h _).mpr hanswer
  rw [hresult] at hagrees
  cases hagrees

end Sql

end ShopQuery
