import ShopQuery.Proofs.Calendar.Weekdays
import ShopQuery.Proofs.Shop.Order
import ShopQuery.Proofs.Shop.Totals

/-!
# Spending on weekdays

What the spending of a period is, said of the tables (`Shop.IsWeekdaySpending`): one entry for each
number with a purchase that counts, with the customer of that number and the exact total of the
purchases, the greatest total first. A shop has one such list for a period at most
(`IsWeekdaySpending.unique`), and a statement that asks for it and succeeds answers with that list
(`execute_customerExpenses_eq_ok`).

## How the proof goes

A purchase counts if it is dated on a weekday of the period and its customer and product are stored.
That is just when it has a row in the join (`isSome_joinOne_iff_countsIn`), so the numbers with
entries are those of the groups. The totals are those of the groups too, and exact where there are
any. Sorting changes neither.

The list is unique because its entries are: their numbers are given by the tables, each number once,
the customer and the total belong to the number, and the order is strict on entries (`SpendsMore`).
Equal totals come by name and equal names by number, which no two entries share.

The total may be missing although it would fit, if a partial sum does not. Then the statement fails,
and nothing is said here; `execute_overflow_iff` says when.
-/

namespace ShopQuery

namespace Shop

/-! ## 1. Entries -/

/-- A purchase counts for a period: it is dated on a weekday of the period, and its customer and
product are stored. -/
structure CountsIn (shop : Shop) (start finish : Date) (p : Purchase) : Prop where
  date : p.date ∈ Date.weekdays start finish
  customer : shop.customer? p.customer ≠ none
  product : shop.product? p.product ≠ none

/-- The greater total comes first; equal totals come in the order of their customers. -/
def SpendsMore (a b : Customer × Int64) : Prop :=
  b.2 < a.2 ∨ a.2 = b.2 ∧ a.1.ComesBefore b.1

/-- What each customer spent on the weekdays of a period, by the tables alone. -/
structure IsWeekdaySpending (shop : Shop) (start finish : Date) (sums : List (Customer × Int64)) :
    Prop where
  nodup : (sums.map (·.1.id)).Nodup
  ids : ∀ id, id ∈ sums.map (·.1.id) ↔
    ∃ p ∈ shop.purchases, p.customer = id ∧ shop.CountsIn start finish p
  customer : ∀ s ∈ sums, shop.customer? s.1.id = some s.1
  total : ∀ s ∈ sums, s.2.toInt = exactSum (shop.prices (onWeekdayIn start finish) s.1.id)
  sorted : sums.Pairwise SpendsMore

theorem compareByTotal_eq_lt_iff {a b : Customer × Int64} :
    compareByTotal a b = .lt ↔ SpendsMore a b := by
  unfold compareByTotal SpendsMore
  rw [Ordering.then_eq_lt, Customer.compareByName_eq_lt_iff, Int.compare_eq_lt,
    Std.compare_eq_iff_eq, Int64.lt_iff_toInt_lt, Int64.toInt_inj, eq_comm (a := b.2)]

instance : Std.TransCmp compareByTotal :=
  inferInstanceAs <| Std.TransCmp <|
    compareLex (fun a b : Customer × Int64 => compareOn (·.2.toInt) b a) (compareOn Prod.fst)

instance : Std.LawfulEqCmp compareByTotal where
  eq_of_compare := by
    rintro ⟨c, m⟩ ⟨d, n⟩ h
    obtain ⟨htotal, hname⟩ := Ordering.then_eq_eq.mp h
    have hsame : n = m := Int64.toInt_inj.mp (Std.compare_eq_iff_eq.mp htotal)
    have hcustomer : c = d := Std.LawfulEqOrd.eq_of_compare hname
    rw [hsame, hcustomer]

theorem SpendsMore.asymm {a b : Customer × Int64} (h : SpendsMore a b) : ¬ SpendsMore b a := by
  rw [← compareByTotal_eq_lt_iff] at h ⊢
  exact Std.OrientedCmp.not_lt_of_lt h

namespace IsWeekdaySpending

variable {shop : Shop} {start finish : Date} {sums others : List (Customer × Int64)}

theorem mem_iff (h : shop.IsWeekdaySpending start finish sums) {s : Customer × Int64} :
    s ∈ sums ↔
      (∃ p ∈ shop.purchases, p.customer = s.1.id ∧ shop.CountsIn start finish p) ∧
      shop.customer? s.1.id = some s.1 ∧
      s.2.toInt = exactSum (shop.prices (onWeekdayIn start finish) s.1.id) := by
  constructor
  · intro hs
    exact ⟨(h.ids _).mp (List.mem_map_of_mem hs), h.customer s hs, h.total s hs⟩
  · rintro ⟨hcounts, hcustomer, htotal⟩
    obtain ⟨found, hfound, hid⟩ := List.mem_map.mp ((h.ids _).mpr hcounts)
    have hsame : found.1 = s.1 := by
      have hstored := h.customer found hfound
      rw [hid, hcustomer] at hstored
      exact (Option.some.inj hstored).symm
    have hequal : found.2 = s.2 := by
      rw [← Int64.toInt_inj, h.total found hfound, htotal, hid]
    rwa [← Prod.ext hsame hequal]

/-- A shop has one spending for a period at most. -/
theorem unique (h : shop.IsWeekdaySpending start finish sums)
    (hothers : shop.IsWeekdaySpending start finish others) : sums = others := by
  have hperm : sums.Perm others :=
    (List.perm_ext_iff_of_nodup h.nodup.of_map hothers.nodup.of_map).mpr fun s => by
      rw [h.mem_iff, hothers.mem_iff]
  refine hperm.eq_of_pairwise ?_ h.sorted hothers.sorted
  intro a b _ _ hab hba
  exact absurd hba hab.asymm

/-- A period that ends before it starts has no spending. -/
theorem eq_nil (h : shop.IsWeekdaySpending start finish sums) (hperiod : ¬ start ≤ finish) :
    sums = [] := by
  refine List.eq_nil_iff_forall_not_mem.mpr fun s hs => hperiod ?_
  obtain ⟨⟨p, -, -, hcounts⟩, -⟩ := h.mem_iff.mp hs
  exact Int.le_trans hcounts.date.1 hcounts.date.2.1

end IsWeekdaySpending

/-! ## 2. The evaluator -/

/-- A purchase has a row in the join of a period exactly if it counts. -/
theorem isSome_joinOne_iff_countsIn {shop : Shop} {start finish : Date} {p : Purchase} :
    (shop.joinOne (fun p _ => onWeekdayIn start finish p) p).isSome ↔
      shop.CountsIn start finish p := by
  have hdate : onWeekdayIn start finish p = true ↔ p.date ∈ Date.weekdays start finish := by
    simp [onWeekdayIn, Date.weekdays, and_assoc]
  rw [Option.isSome_iff_exists]
  constructor
  · rintro ⟨row, hrow⟩
    obtain ⟨hcustomer, hproduct, hcounts⟩ := joinOne_eq_some_iff.mp hrow
    exact ⟨hdate.mp hcounts, Option.ne_none_iff_exists'.mpr ⟨_, hcustomer⟩,
      Option.ne_none_iff_exists'.mpr ⟨_, hproduct⟩⟩
  · rintro ⟨hcounts, hcustomer, hproduct⟩
    obtain ⟨c, hcustomer⟩ := Option.ne_none_iff_exists'.mp hcustomer
    obtain ⟨q, hproduct⟩ := Option.ne_none_iff_exists'.mp hproduct
    exact ⟨(c, q), joinOne_eq_some_iff.mpr ⟨hcustomer, hproduct, hdate.mpr hcounts⟩⟩

/-- **The evaluator finds the spending of a period**, where it finds any. -/
theorem isWeekdaySpending_of_weekdaySpending {shop : Shop} {start finish : Date}
    {sums : List (Customer × Int64)} (h : shop.weekdaySpending start finish = .ok sums) :
    shop.IsWeekdaySpending start finish sums := by
  unfold weekdaySpending at h
  obtain ⟨found, htotals, hsorted⟩ := bind_eq_ok_iff.mp h
  cases hsorted
  have hperm := List.mergeSort_perm found fun a b => (compareByTotal a b).isLE
  have hids : found.map (·.1.id) =
      (group (shop.joined fun p _ => onWeekdayIn start finish p)).map (·.customer.id) := by
    have hcustomers := congrArg (List.map Customer.id) (map_fst_totals htotals)
    rwa [List.map_map, List.map_map] at hcustomers
  have hnodup : ((found.mergeSort fun a b => (compareByTotal a b).isLE).map (·.1.id)).Nodup := by
    rw [(hperm.map _).nodup_iff, hids]
    exact nodup_map_id_group _
  have hsum : ∀ s ∈ found.mergeSort fun a b => (compareByTotal a b).isLE,
      shop.customer? s.1.id = some s.1 ∧
        s.2.toInt = exactSum (shop.prices (onWeekdayIn start finish) s.1.id) := by
    intro s hs
    obtain ⟨hstored, -, htotal⟩ := of_mem_totals htotals (hperm.mem_iff.mp hs)
    exact ⟨hstored, htotal⟩
  refine ⟨hnodup, fun id => ?_, fun s hs => (hsum s hs).1, fun s hs => (hsum s hs).2, ?_⟩
  · rw [(hperm.map _).mem_iff, hids, mem_map_id_group, mem_ids_joined]
    simp only [isSome_joinOne_iff_countsIn]
  -- The sort allows ties; no two of the rows are the same customer's, so the order is strict.
  · have hsorted := pairwise_mergeSort_isLE compareByTotal found
    have hstrict := pairwise_lt_of_nodup hnodup.of_map hsorted
    exact hstrict.imp compareByTotal_eq_lt_iff.mp

/-! ## 3. The statement -/

/-- **A statement for the spending of a period answers with it.** There is one entry for each number
with a purchase that counts, and no other, so there are none if the period ends before it starts. -/
theorem execute_customerExpenses_eq_ok {shop : Shop} {start finish : Date} {result : QueryResult}
    (h : shop.execute ⟨.customerExpenses, [.date start, .date finish]⟩ = .ok result) :
    ∃ sums, shop.IsWeekdaySpending start finish sums ∧
      (∀ others, shop.IsWeekdaySpending start finish others → others = sums) ∧
      result.columns = ["last_name", "first_name", "total_expenses"] ∧
      result.rows =
        sums.map (fun s => [.text s.1.lastName, .text s.1.firstName, .int s.2]) ∧
      (¬ start ≤ finish → result.rows = []) := by
  rw [execute_customerExpenses, resultOf, mapError_eq_ok_iff] at h
  obtain ⟨rows, hrows, rfl⟩ := map_eq_ok_iff.mp h
  obtain ⟨sums, hsums, rfl⟩ := map_eq_ok_iff.mp hrows
  have hspending := isWeekdaySpending_of_weekdaySpending hsums
  refine ⟨sums, hspending, fun others hothers => hothers.unique hspending, rfl, rfl, ?_⟩
  intro hperiod
  rw [hspending.eq_nil hperiod]
  rfl

/-- A week with two equal totals, a purchase on a Saturday, one of a product that is not stored and
one of a customer who is not, and a second record for a number of each kind. -/
def marketWeek : Shop where
  customers := [⟨1, "Smith", "John"⟩, ⟨2, "Smith", "Anna"⟩, ⟨1, "Stone", "Ada"⟩,
    ⟨3, "Young", "Kim"⟩]
  products := [⟨10, "Tea", 5⟩, ⟨11, "Milk", -5⟩, ⟨10, "Coffee", 9⟩]
  purchases := [⟨1, 10, monday⟩, ⟨2, 10, monday⟩, ⟨2, 11, monday⟩, ⟨2, 10, monday⟩,
    ⟨3, 10, saturday⟩, ⟨3, 12, monday⟩, ⟨4, 10, monday⟩]
where
  /-- 6 May 2024. -/
  monday : Date := ⟨2024, 5, 6, by decide, by decide, by decide⟩
  /-- 11 May 2024. -/
  saturday : Date := ⟨2024, 5, 11, by decide, by decide, by decide⟩

/-- What the week comes to: equal totals come by first name. -/
def marketWeekResult : QueryResult where
  columns := ["last_name", "first_name", "total_expenses"]
  rows := [[.text "Smith", .text "Anna", .int 5], [.text "Smith", .text "John", .int 5]]

/-- Two customers have spent something. -/
theorem execute_customerExpenses_marketWeek :
    marketWeek.execute ⟨.customerExpenses, [.date marketWeek.monday, .date marketWeek.saturday]⟩ =
        .ok marketWeekResult ∧
      ∃ sums, marketWeek.IsWeekdaySpending marketWeek.monday marketWeek.saturday sums ∧
        marketWeekResult.rows = sums.map fun s =>
          [.text s.1.lastName, .text s.1.firstName, .int s.2] := by
  have htotals : totals (group (marketWeek.joined fun p _ =>
      onWeekdayIn marketWeek.monday marketWeek.saturday p)) =
        .ok [(⟨1, "Smith", "John"⟩, 5), (⟨2, "Smith", "Anna"⟩, 5)] := by decide +kernel
  have hafter : ¬ (compareByTotal (⟨1, "Smith", "John"⟩, 5) (⟨2, "Smith", "Anna"⟩, 5)).isLE := by
    decide +kernel
  have hspending : marketWeek.weekdaySpending marketWeek.monday marketWeek.saturday =
      .ok [(⟨2, "Smith", "Anna"⟩, 5), (⟨1, "Smith", "John"⟩, 5)] := by
    rw [weekdaySpending, htotals]
    simp [bind, Except.bind, pure, Except.pure, List.mergeSort, List.MergeSort.Internal.splitInTwo,
      hafter]
  have h : marketWeek.execute
      ⟨.customerExpenses, [.date marketWeek.monday, .date marketWeek.saturday]⟩ =
        .ok marketWeekResult := by
    rw [execute_customerExpenses, hspending]
    rfl
  obtain ⟨sums, hsums, -, -, hrows, -⟩ := execute_customerExpenses_eq_ok h
  exact ⟨h, sums, hsums, hrows⟩

end Shop

end ShopQuery
