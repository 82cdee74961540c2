import Mathlib.Data.List.Dedup
import ShopQuery.Proofs.Shop.Listing

/-!
# Buyers in the order of their purchases

A ranking of a shop lists the stored customers with purchases, each once: those with the fewest
purchases first, those with equally many by name (`Shop.IsRanking`). A shop has one ranking at most
(`IsRanking.unique`), since the order compares numbers in the end.

The evaluator joins purchases with products, so it ranks the shop without the purchases of products
that are not stored (`isRanking_ranking`). Every statement for the customers with the fewest
purchases answers with the first names of this one ranking (`execute_badCustomers_ranking`).

## How the proof goes

Two counts of purchases are told apart: `purchaseCount` counts all of a customer, and `boughtCount`
those of stored products. Groups have the second. Without dangling purchases the two are the same
number, and so the evaluator's ranking is a ranking of the shop without them
(`purchaseCount_withoutDangling_eq`). Whether it is also one of the shop itself depends on the
dangling purchases; it is if no stored customer has any (`buyers_withoutDangling`).

As all limits cut one list, a smaller limit gives a prefix of what a greater one gives. A limit
beyond the end gives the whole list, and a negative one fails before the tables are looked at.
Totals have no part in it: a group may lack one and is ranked by its count.
-/

namespace ShopQuery

namespace Shop

/-! ## 1. Rankings -/

/-- The number of purchases of the customer with a number. -/
def purchaseCount (shop : Shop) (id : Int64) : Nat := shop.purchases.countP (·.customer == id)

/-- Compares customers by their number of purchases, then by name. -/
def compareByPurchases (shop : Shop) (a b : Customer) : Ordering :=
  (compare (shop.purchaseCount a.id) (shop.purchaseCount b.id)).then (a.compareByName b)

instance (shop : Shop) : Std.TransCmp shop.compareByPurchases :=
  inferInstanceAs <| Std.TransCmp <|
    compareLex (compareOn (shop.purchaseCount ∘ Customer.id)) compare

instance (shop : Shop) : Std.LawfulEqCmp shop.compareByPurchases where
  eq_of_compare h := Std.LawfulEqOrd.eq_of_compare (Ordering.then_eq_eq.mp h).2

/-- The stored customers with purchases, each once, in the order of their purchases. -/
structure IsRanking (shop : Shop) (ranking : List Customer) : Prop where
  nodup : ranking.Nodup
  mem_iff : ∀ c, c ∈ ranking ↔ shop.customer? c.id = some c ∧ 0 < shop.purchaseCount c.id
  sorted : ranking.Pairwise fun a b => (shop.compareByPurchases a b).isLE

/-- A shop has at most one ranking. -/
theorem IsRanking.unique {shop : Shop} {first second : List Customer}
    (hfirst : shop.IsRanking first) (hsecond : shop.IsRanking second) : first = second := by
  have hperm : first.Perm second :=
    (List.perm_ext_iff_of_nodup hfirst.nodup hsecond.nodup).mpr fun c => by
      rw [hfirst.mem_iff, hsecond.mem_iff]
  exact eq_of_perm_of_pairwise_isLE hperm hfirst.sorted hsecond.sorted

/-- The stored customers with purchases, those with the fewest purchases first. -/
def buyers (shop : Shop) : List Customer :=
  (shop.customers.dedup.filter fun c =>
    shop.customer? c.id == some c && 0 < shop.purchaseCount c.id).mergeSort fun a b =>
      (shop.compareByPurchases a b).isLE

/-- Every shop has a ranking. -/
theorem isRanking_buyers (shop : Shop) : shop.IsRanking shop.buyers := by
  have hperm := List.mergeSort_perm
    (shop.customers.dedup.filter fun c =>
      shop.customer? c.id == some c && 0 < shop.purchaseCount c.id)
    fun a b => (shop.compareByPurchases a b).isLE
  refine ⟨hperm.nodup_iff.mpr (shop.customers.nodup_dedup.filter _), fun c => ?_,
    pairwise_mergeSort_isLE _ _⟩
  unfold buyers
  rw [hperm.mem_iff, List.mem_filter, List.mem_dedup]
  simp only [Bool.and_eq_true, beq_iff_eq, decide_eq_true_eq, and_iff_right_iff_imp]
  exact fun h => mem_of_customer? h.1

/-! ## 2. The evaluator's ranking -/

/-- A shop without the purchases of products that it does not have. -/
def withoutDangling (shop : Shop) : Shop :=
  { shop with purchases := shop.purchases.filter fun p => (shop.product? p.product).isSome }

/-- Purchases that do not dangle are those of stored products. -/
theorem purchaseCount_withoutDangling_eq (shop : Shop) (id : Int64) :
    shop.withoutDangling.purchaseCount id = shop.boughtCount (fun _ _ => true) id := by
  unfold purchaseCount withoutDangling boughtCount
  rw [List.countP_filter]
  rfl

/-- **The evaluator ranks the purchases of stored products.** -/
theorem isRanking_ranking (shop : Shop) : shop.withoutDangling.IsRanking shop.ranking := by
  have hperm := List.mergeSort_perm (group (shop.joined fun _ _ => true))
    fun a b => (compareByCount a b).isLE
  refine ⟨?_, fun c => ?_, ?_⟩
  · exact (hperm.map Group.customer).nodup_iff.mpr (nodup_map_customer_group _)
  · unfold ranking
    rw [(hperm.map _).mem_iff, mem_map_customer_group_joined, purchaseCount_withoutDangling_eq]
    rfl
  · refine List.pairwise_map.mpr (List.Pairwise.imp_of_mem ?_
      (pairwise_mergeSort_isLE compareByCount _))
    intro a b ha hb hle
    unfold compareByPurchases
    rw [purchaseCount_withoutDangling_eq, purchaseCount_withoutDangling_eq,
      ← count_of_mem_group_joined (hperm.mem_iff.mp ha),
      ← count_of_mem_group_joined (hperm.mem_iff.mp hb)]
    exact hle

theorem ranking_eq_buyers (shop : Shop) : shop.ranking = shop.withoutDangling.buyers :=
  (isRanking_ranking shop).unique (isRanking_buyers _)

/-- The evaluator answers with the first buyers of stored products. -/
theorem execute_badCustomers_of_nonneg (shop : Shop) {limit : Int64} (h : 0 ≤ limit) :
    shop.execute ⟨.badCustomers, [.int limit]⟩ =
      .ok ⟨Template.badCustomers.columns,
        (shop.withoutDangling.buyers.take limit.toNatClampNeg).map nameRow⟩ := by
  rw [execute_badCustomers, ← ranking_eq_buyers]
  unfold rarestBuyers
  rw [if_neg (Int64.not_lt.mpr h)]
  rfl

/-! ## 3. Shops without dangling purchases -/

theorem purchaseCount_withoutDangling {shop : Shop}
    (h : ∀ p ∈ shop.purchases, (shop.customer? p.customer).isSome →
      (shop.product? p.product).isSome) {id : Int64} (hid : (shop.customer? id).isSome) :
    shop.withoutDangling.purchaseCount id = shop.purchaseCount id := by
  unfold purchaseCount withoutDangling
  rw [List.countP_filter]
  refine List.countP_congr fun p hp => ?_
  rw [Bool.and_eq_true, and_iff_left_iff_imp, beq_iff_eq]
  rintro rfl
  exact h p hp hid

/-- Where stored customers buy stored products only, no buyer is left out or moved. -/
theorem buyers_withoutDangling {shop : Shop}
    (h : ∀ p ∈ shop.purchases, (shop.customer? p.customer).isSome →
      (shop.product? p.product).isSome) : shop.withoutDangling.buyers = shop.buyers := by
  have hranking := shop.withoutDangling.isRanking_buyers
  have hcount : ∀ {c : Customer}, shop.customer? c.id = some c →
      shop.withoutDangling.purchaseCount c.id = shop.purchaseCount c.id := fun hc =>
    purchaseCount_withoutDangling h (Option.isSome_of_eq_some hc)
  have hsame : shop.IsRanking shop.withoutDangling.buyers := by
    refine ⟨hranking.nodup, fun c => ?_, hranking.sorted.imp_of_mem fun {a b} ha hb hle => ?_⟩
    · rw [hranking.mem_iff]
      exact and_congr_right fun hc => by rw [hcount hc]
    · unfold compareByPurchases at hle ⊢
      rwa [hcount ((hranking.mem_iff a).mp ha).1, hcount ((hranking.mem_iff b).mp hb).1] at hle
  exact hsame.unique shop.isRanking_buyers

/-! ## 4. Statements with a limit -/

/-- The customer who bought stored products less often comes first; customers who did so equally
often come by name. -/
def BuysLess (shop : Shop) (a b : Customer) : Prop :=
  shop.boughtCount (fun _ _ => true) a.id < shop.boughtCount (fun _ _ => true) b.id ∨
    shop.boughtCount (fun _ _ => true) a.id = shop.boughtCount (fun _ _ => true) b.id ∧
      a.ComesBefore b

instance (shop : Shop) (a b : Customer) : Decidable (shop.BuysLess a b) :=
  inferInstanceAs (Decidable (_ ∨ _))

theorem compareByPurchases_withoutDangling_eq_lt_iff {shop : Shop} {a b : Customer} :
    shop.withoutDangling.compareByPurchases a b = .lt ↔ shop.BuysLess a b := by
  unfold compareByPurchases BuysLess
  rw [purchaseCount_withoutDangling_eq, purchaseCount_withoutDangling_eq, Ordering.then_eq_lt,
    Customer.compareByName_eq_lt_iff, Nat.compare_eq_lt, Std.compare_eq_iff_eq]

theorem BuysLess.asymm {shop : Shop} {a b : Customer} (h : shop.BuysLess a b) :
    ¬ shop.BuysLess b a := by
  rw [← compareByPurchases_withoutDangling_eq_lt_iff] at h ⊢
  exact Std.OrientedCmp.not_lt_of_lt h

/-- The evaluator's ranking lists those who bought something, the ones who bought less often
first. -/
theorem isListing_ranking (shop : Shop) :
    shop.IsListing shop.BuysLess (fun c => 0 < shop.boughtCount (fun _ _ => true) c.id)
      shop.ranking := by
  have hranking := shop.isRanking_ranking
  refine ⟨hranking.nodup, fun c => ?_, ?_⟩
  · rw [hranking.mem_iff, purchaseCount_withoutDangling_eq]
    rfl
  · have hstrict := pairwise_lt_of_nodup hranking.nodup hranking.sorted
    exact hstrict.imp compareByPurchases_withoutDangling_eq_lt_iff.mp

/-- A statement with a negative limit fails before the tables are looked at. -/
theorem execute_badCustomers_of_neg (shop : Shop) {limit : Int64} (h : limit < 0) :
    shop.execute ⟨.badCustomers, [.int limit]⟩ = .error (.query "LIMIT must not be negative") := by
  rw [execute_badCustomers]
  unfold rarestBuyers
  rw [if_pos h]
  rfl

/-- **Every limit cuts one ranking.** What a shop's products cost has no part in it. -/
theorem execute_badCustomers_ranking (shop : Shop) :
    ∃ ranking,
      (∀ others, shop.IsListing shop.BuysLess
        (fun c => 0 < shop.boughtCount (fun _ _ => true) c.id) others ↔ others = ranking) ∧
      (∀ limit, 0 ≤ limit →
        shop.execute ⟨.badCustomers, [.int limit]⟩ =
          .ok ⟨["last_name", "first_name"],
            (ranking.take (min limit.toInt.toNat ranking.length)).map fun c =>
              [.text c.lastName, .text c.firstName]⟩) ∧
      (∀ few many fewer more, few ≤ many →
        shop.execute ⟨.badCustomers, [.int few]⟩ = .ok fewer →
        shop.execute ⟨.badCustomers, [.int many]⟩ = .ok more → fewer.rows <+: more.rows) ∧
      ∀ limit, limit < 0 →
        shop.execute ⟨.badCustomers, [.int limit]⟩ =
          .error (.query "LIMIT must not be negative") := by
  have hcut : ∀ limit, 0 ≤ limit → shop.execute ⟨.badCustomers, [.int limit]⟩ =
      .ok ⟨Template.badCustomers.columns,
        (shop.ranking.take limit.toNatClampNeg).map nameRow⟩ := by
    intro limit hlimit
    rw [execute_badCustomers_of_nonneg shop hlimit, ranking_eq_buyers]
  refine ⟨shop.ranking, fun others => ?_, fun limit hlimit => ?_, ?_,
    fun limit hlimit => execute_badCustomers_of_neg shop hlimit⟩
  · exact shop.isListing_ranking.iff_eq fun _ _ => BuysLess.asymm
  · rw [hcut limit hlimit, ← List.take_eq_take_min]
    rfl
  · intro few many fewer more hle hfewer hmore
    -- The smaller limit was accepted, so neither is negative.
    have hfew : 0 ≤ few := by
      by_contra hneg
      rw [execute_badCustomers_of_neg shop (Int64.not_le.mp hneg)] at hfewer
      cases hfewer
    have hmany : 0 ≤ many := Int64.le_trans hfew hle
    rw [hcut few hfew] at hfewer
    rw [hcut many hmany] at hmore
    cases hfewer
    cases hmore
    refine (List.take_prefix_take_left ?_).map nameRow
    rw [← Int64.toNat_toInt, ← Int64.toNat_toInt]
    exact Int.toNat_le_toNat (Int64.le_iff_toInt_le.mp hle)

/-- One of two buyers with a single purchase, and both; a refund counts like any other purchase. -/
theorem execute_badCustomers_cornerShop :
    cornerShop.execute ⟨.badCustomers, [.int 1]⟩ =
      .ok ⟨["last_name", "first_name"], [[.text "Smith", .text "John"]]⟩ ∧
    cornerShop.execute ⟨.badCustomers, [.int 2]⟩ =
      .ok ⟨["last_name", "first_name"],
        [[.text "Smith", .text "John"], [.text "Young", .text "Kim"]]⟩ ∧
    cornerShop.execute ⟨.badCustomers, [.int (-1)]⟩ =
      .error (.query "LIMIT must not be negative") := by
  obtain ⟨ranking, hranking, hcut, -, hnegative⟩ := execute_badCustomers_ranking cornerShop
  have hlisting : cornerShop.IsListing cornerShop.BuysLess
      (fun c => 0 < cornerShop.boughtCount (fun _ _ => true) c.id)
      [⟨1, "Smith", "John"⟩, ⟨4, "Young", "Kim"⟩, ⟨2, "Adams", "Zoe"⟩] := by
    have hwanted : ∀ c ∈ cornerShop.customers, cornerShop.customer? c.id = some c →
        0 < cornerShop.boughtCount (fun _ _ => true) c.id →
        c ∈ [⟨1, "Smith", "John"⟩, ⟨4, "Young", "Kim"⟩, ⟨2, "Adams", "Zoe"⟩] := by decide +kernel
    refine ⟨by decide, fun c => ⟨?_, ?_⟩, by decide +kernel⟩
    · revert c
      decide +kernel
    · rintro ⟨hstored, hbought⟩
      exact hwanted c (mem_of_customer? hstored) hstored hbought
  rw [← (hranking _).mp hlisting] at hcut
  exact ⟨hcut 1 (by decide), hcut 2 (by decide), hnegative (-1) (by decide)⟩

end Shop

end ShopQuery
