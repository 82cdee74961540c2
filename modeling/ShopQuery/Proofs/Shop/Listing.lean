import ShopQuery.Proofs.Shop.Order
import ShopQuery.Proofs.Shop.Totals

/-!
# Customers listed by name

Three templates answer with the names of customers in the order of the names. Which customers these
are is said of the tables alone, and it leaves no choice in the answer.

* `execute_productFrequency_listing`: those who bought a product often enough, whatever it costs.
* `execute_expenseRange_listing`: those whose exact total lies in a range, where all totals fit.
* `execute_lastName_family`: all records of a last name, in whatever order they were added.

The first two list customers (`Shop.IsListing`), of whom each number stands for one: the record with
it that was added first. The third lists records (`Shop.IsFamily`).

## How the proof goes

A listing has its members, each once, and is sorted. There is one at most: two lists with the same
members, each once, are permutations of each other, and a list has one permutation that is in strict
order (`IsListing.unique`). So it is enough to show that the evaluator's answer is a listing. It
sorts customers of groups; that these are the customers wanted is said in terms of groups and comes
from what groups are made of (`mem_map_customer_group_joined`).

A family may have a record several times, so it is a permutation and not a set of members, and its
order is not strict. It is unique all the same, since only equal records are equal in the order.

## Edges

* A least number of purchases that is zero or negative asks for one purchase, as a customer without
  any has no group.
* Totals are exact sums. Where one cannot be added up, no listing is answered, whatever the range,
  which is looked at last.
* A range whose ends are the wrong way round has nobody in it.
-/

namespace ShopQuery

namespace Shop

/-! ## 1. Listings -/

/-- The stored customers of a kind, each once and in order. -/
structure IsListing (shop : Shop) (before : Customer → Customer → Prop) (wanted : Customer → Prop)
    (customers : List Customer) : Prop where
  nodup : customers.Nodup
  mem_iff : ∀ c, c ∈ customers ↔ shop.customer? c.id = some c ∧ wanted c
  sorted : customers.Pairwise before

section

variable {shop : Shop} {before : Customer → Customer → Prop} {wanted : Customer → Prop}
  {customers others : List Customer}

/-- In an order without cycles of two, a kind of customers has one listing at most. -/
theorem IsListing.unique (hbefore : ∀ a b, before a b → ¬ before b a)
    (h : shop.IsListing before wanted customers) (hothers : shop.IsListing before wanted others) :
    customers = others := by
  have hperm : customers.Perm others := by
    refine (List.perm_ext_iff_of_nodup h.nodup hothers.nodup).mpr fun c => ?_
    rw [h.mem_iff, hothers.mem_iff]
  refine hperm.eq_of_pairwise ?_ h.sorted hothers.sorted
  intro a b _ _ hab hba
  exact absurd hba (hbefore a b hab)

theorem IsListing.iff_eq (hbefore : ∀ a b, before a b → ¬ before b a)
    (h : shop.IsListing before wanted customers) :
    shop.IsListing before wanted others ↔ others = customers := by
  constructor
  · intro hothers
    exact hothers.unique hbefore h
  · rintro rfl
    exact h

/-- A kind to which nobody belongs has no names. -/
theorem IsListing.eq_nil (h : shop.IsListing before wanted customers)
    (hnobody : ∀ c, ¬ wanted c) : customers = [] := by
  refine List.eq_nil_iff_forall_not_mem.mpr fun c hc => ?_
  exact hnobody c ((h.mem_iff c).mp hc).2

/-- Found customers make a listing once they are sorted. -/
theorem isListing_sortByName (hnodup : customers.Nodup)
    (hmem : ∀ c, c ∈ customers ↔ shop.customer? c.id = some c ∧ wanted c) :
    shop.IsListing Customer.ComesBefore wanted (sortByName customers) := by
  have hperm : (sortByName customers).Perm customers := List.mergeSort_perm _ _
  refine ⟨hperm.nodup_iff.mpr hnodup, fun c => ?_, pairwise_sortByName hnodup⟩
  rw [hperm.mem_iff, hmem]

end

/-! ## 2. Frequent buyers -/

/-- The customer bought products of a name often enough, and at all. Different products of the name
count together. -/
def BoughtOften (shop : Shop) (product : String) (least : Int64) (c : Customer) : Prop :=
  max least.toInt 1 ≤ shop.boughtCount (fun _ q => q.name == product) c.id

/-- The evaluator finds the frequent buyers. -/
theorem isListing_frequentBuyers (shop : Shop) (product : String) (least : Int64) :
    shop.IsListing Customer.ComesBefore (shop.BoughtOften product least)
      (shop.frequentBuyers product least) := by
  have hnodup := nodup_map_customer_group (shop.joined fun _ q => q.name == product)
  refine isListing_sortByName (hnodup.sublist (List.filter_sublist.map _)) fun c => ?_
  simp only [List.mem_map, List.mem_filter, decide_eq_true_eq]
  constructor
  · rintro ⟨g, ⟨hg, hleast⟩, rfl⟩
    obtain ⟨hstored, hbought⟩ := mem_map_customer_group_joined.mp (List.mem_map_of_mem hg)
    have hcount := count_of_mem_group_joined hg
    refine ⟨hstored, ?_⟩
    unfold BoughtOften
    omega
  · rintro ⟨hstored, hoften⟩
    unfold BoughtOften at hoften
    have hbought : 0 < shop.boughtCount (fun _ q => q.name == product) c.id := by omega
    obtain ⟨g, hg, rfl⟩ :=
      List.mem_map.mp (mem_map_customer_group_joined.mpr ⟨hstored, hbought⟩)
    have hcount := count_of_mem_group_joined hg
    exact ⟨g, ⟨hg, by omega⟩, rfl⟩

/-- **A statement for the frequent buyers of a product answers with their names.** It has no way to
fail, since prices have no part in it. -/
theorem execute_productFrequency_listing (shop : Shop) (product : String) (least : Int64) :
    ∃ buyers,
      (∀ others, shop.IsListing Customer.ComesBefore (shop.BoughtOften product least) others ↔
        others = buyers) ∧
      shop.execute ⟨.productFrequency, [.text product, .int least]⟩ =
        .ok ⟨["last_name", "first_name"],
          buyers.map fun c => [.text c.lastName, .text c.firstName]⟩ := by
  refine ⟨shop.frequentBuyers product least, fun others => ?_, execute_productFrequency _ _ _⟩
  exact (shop.isListing_frequentBuyers product least).iff_eq fun _ _ => Customer.ComesBefore.asymm

/-! ## 3. Totals in a range -/

/-- The customer bought something, and the exact total of all that the customer bought lies in a
closed range. -/
def SpentBetween (shop : Shop) (least greatest : Int64) (c : Customer) : Prop :=
  0 < shop.boughtCount (fun _ _ => true) c.id ∧
  least.toInt ≤ exactSum (shop.prices (fun _ => true) c.id) ∧
  exactSum (shop.prices (fun _ => true) c.id) ≤ greatest.toInt

/-- The evaluator finds the customers of a range, where it finds any totals. -/
theorem isListing_of_spending {shop : Shop} {least greatest : Int64} {customers : List Customer}
    (h : shop.spending least greatest = .ok customers) :
    shop.IsListing Customer.ComesBefore (shop.SpentBetween least greatest) customers := by
  unfold spending at h
  obtain ⟨sums, htotals, hsorted⟩ := bind_eq_ok_iff.mp h
  cases hsorted
  have hnodup : (sums.map Prod.fst).Nodup := map_fst_totals htotals ▸ nodup_map_customer_group _
  refine isListing_sortByName (hnodup.sublist (List.filter_sublist.map _)) fun c => ?_
  simp only [List.mem_map, List.mem_filter, Bool.and_eq_true, decide_eq_true_eq,
    Int64.le_iff_toInt_le]
  constructor
  · rintro ⟨s, ⟨hs, hrange⟩, rfl⟩
    obtain ⟨hstored, hbought, htotal⟩ := of_mem_totals htotals hs
    rw [htotal] at hrange
    exact ⟨hstored, hbought, hrange⟩
  · rintro ⟨hstored, hbought, hrange⟩
    obtain ⟨total, hs⟩ := exists_mem_totals htotals hstored hbought
    rw [← (of_mem_totals htotals hs).2.2] at hrange
    exact ⟨(c, total), ⟨hs, hrange⟩, rfl⟩

/-- Whether totals are found does not depend on the range. -/
theorem exists_spending_eq_ok {shop : Shop} {least greatest : Int64} {customers : List Customer}
    (h : shop.spending least greatest = .ok customers) (least' greatest' : Int64) :
    ∃ others, shop.spending least' greatest' = .ok others := by
  unfold spending at h ⊢
  obtain ⟨sums, htotals, -⟩ := bind_eq_ok_iff.mp h
  exact ⟨_, bind_eq_ok_iff.mpr ⟨sums, htotals, rfl⟩⟩

/-- **A statement for totals in a range answers with the names of those who have them**, where it
succeeds. Then it succeeds for every range. -/
theorem execute_expenseRange_listing {shop : Shop} {least greatest : Int64} {result : QueryResult}
    (h : shop.execute ⟨.expenseRange, [.int least, .int greatest]⟩ = .ok result) :
    (∃ spenders,
      (∀ others, shop.IsListing Customer.ComesBefore (shop.SpentBetween least greatest) others ↔
        others = spenders) ∧
      result = ⟨["last_name", "first_name"],
        spenders.map fun c => [.text c.lastName, .text c.firstName]⟩) ∧
    (greatest < least → result.rows = []) ∧
    ∀ least' greatest', ∃ other,
      shop.execute ⟨.expenseRange, [.int least', .int greatest']⟩ = .ok other := by
  rw [execute_expenseRange, resultOf, mapError_eq_ok_iff] at h
  obtain ⟨rows, hrows, rfl⟩ := map_eq_ok_iff.mp h
  obtain ⟨spenders, hspending, rfl⟩ := map_eq_ok_iff.mp hrows
  have hlisting := isListing_of_spending hspending
  refine ⟨⟨spenders, fun others => ?_, rfl⟩, fun hempty => ?_, fun least' greatest' => ?_⟩
  · exact hlisting.iff_eq fun _ _ => Customer.ComesBefore.asymm
  · have hnobody : ∀ c, ¬ shop.SpentBetween least greatest c := by
      rintro c ⟨-, hleast, hgreatest⟩
      rw [Int64.lt_iff_toInt_lt] at hempty
      omega
    rw [hlisting.eq_nil hnobody]
    rfl
  · obtain ⟨others, hothers⟩ := exists_spending_eq_ok hspending least' greatest'
    rw [execute_expenseRange, hothers]
    exact ⟨_, rfl⟩

/-- Prices that add up to nothing, purchases without a stored customer or product, and numbers that
occur twice. -/
def cornerShop : Shop where
  customers := [⟨1, "Smith", "John"⟩, ⟨2, "Adams", "Zoe"⟩, ⟨1, "Smith", "Ann"⟩, ⟨3, "Brown", "Bob"⟩,
    ⟨4, "Young", "Kim"⟩]
  products := [⟨10, "Tea", 5⟩, ⟨11, "Refund", -5⟩, ⟨12, "Yacht", 9⟩, ⟨10, "Gold", 7⟩]
  purchases := [⟨1, 10, Date.first⟩, ⟨2, 10, Date.first⟩, ⟨4, 12, Date.first⟩, ⟨2, 11, Date.first⟩,
    ⟨5, 10, Date.first⟩, ⟨3, 13, Date.first⟩]

/-- A total of zero is in the range; a customer without a purchase of a stored product is not. -/
theorem execute_expenseRange_cornerShop :
    cornerShop.execute ⟨.expenseRange, [.int 0, .int 5]⟩ =
      .ok ⟨["last_name", "first_name"],
        [[.text "Adams", .text "Zoe"], [.text "Smith", .text "John"]]⟩ ∧
    ∃ spenders,
      (∀ others, cornerShop.IsListing Customer.ComesBefore (cornerShop.SpentBetween 0 5) others ↔
        others = spenders) ∧
      spenders.map nameRow = [[.text "Adams", .text "Zoe"], [.text "Smith", .text "John"]] := by
  have h : cornerShop.execute ⟨.expenseRange, [.int 0, .int 5]⟩ =
      .ok ⟨["last_name", "first_name"],
        [[.text "Adams", .text "Zoe"], [.text "Smith", .text "John"]]⟩ := by
    have htotals : totals (group (cornerShop.joined fun _ _ => true)) =
        .ok [(⟨1, "Smith", "John"⟩, 5), (⟨2, "Adams", "Zoe"⟩, 0), (⟨4, "Young", "Kim"⟩, 9)] := by
      decide +kernel
    have hsorted : sortByName [⟨1, "Smith", "John"⟩, ⟨2, "Adams", "Zoe"⟩] =
        [⟨2, "Adams", "Zoe"⟩, ⟨1, "Smith", "John"⟩] := by
      rw [sortByName_eq_of_perm (.swap _ _ _), sortByName, List.mergeSort_of_pairwise (by decide)]
    have hspending : cornerShop.spending 0 5 =
        .ok [⟨2, "Adams", "Zoe"⟩, ⟨1, "Smith", "John"⟩] := by
      rw [spending, htotals]
      exact congrArg Except.ok hsorted
    rw [execute_expenseRange, hspending]
    rfl
  obtain ⟨⟨spenders, hspenders, hresult⟩, -⟩ := execute_expenseRange_listing h
  exact ⟨h, spenders, hspenders, (congrArg QueryResult.rows hresult).symm⟩

/-! ## 4. Records of one last name -/

/-- All records of a last name, as often as they were added, in the order of first names and, for
equal names, of numbers. -/
structure IsFamily (shop : Shop) (name : String) (records : List Customer) : Prop where
  perm : records.Perm (shop.customers.filter (·.lastName == name))
  sorted : records.Pairwise Customer.NotAfterByFirstName

section

variable {shop : Shop} {name : String} {records others : List Customer}

/-- Within a last name, the order of first names is that of all customers. -/
theorem isFamily_iff :
    shop.IsFamily name records ↔
      records.Perm (shop.customers.filter (·.lastName == name)) ∧
        records.Pairwise fun a b => (compare a b).isLE := by
  have hsorted : records.Perm (shop.customers.filter (·.lastName == name)) →
      (records.Pairwise Customer.NotAfterByFirstName ↔
        records.Pairwise fun a b => (compare a b).isLE) := by
    intro hperm
    have hname : ∀ c ∈ records, c.lastName = name := by
      intro c hc
      simpa using (List.mem_filter.mp (hperm.mem_iff.mp hc)).2
    refine List.Pairwise.iff_of_mem fun {a b} ha hb => ?_
    have hlast : a.lastName = b.lastName := by rw [hname a ha, hname b hb]
    exact (Customer.isLE_compareByName_iff hlast).symm
  constructor
  · rintro ⟨hperm, hordered⟩
    exact ⟨hperm, (hsorted hperm).mp hordered⟩
  · rintro ⟨hperm, hordered⟩
    exact ⟨hperm, (hsorted hperm).mpr hordered⟩

/-- A shop has one list of the records of a last name. -/
theorem IsFamily.iff_eq (h : shop.IsFamily name records) :
    shop.IsFamily name others ↔ others = records := by
  constructor
  · intro hothers
    obtain ⟨hperm, hsorted⟩ := isFamily_iff.mp h
    obtain ⟨hperm', hsorted'⟩ := isFamily_iff.mp hothers
    exact eq_of_perm_of_pairwise_isLE (hperm'.trans hperm.symm) hsorted' hsorted
  · rintro rfl
    exact h

end

/-- The evaluator finds the records of a last name. -/
theorem isFamily_withLastName (shop : Shop) (name : String) :
    shop.IsFamily name (shop.withLastName name) :=
  isFamily_iff.mpr ⟨List.mergeSort_perm _ _, pairwise_mergeSort_isLE compare _⟩

/-- **A statement for a last name answers with all records of it**, in the order of first names and
numbers. So the answer is that of any shop with the same customers, in whatever order they were
added and whatever they bought. -/
theorem execute_lastName_family (shop : Shop) (name : String) :
    ∃ records,
      (∀ others, shop.IsFamily name others ↔ others = records) ∧
      shop.execute ⟨.lastName, [.text name]⟩ =
        .ok ⟨["last_name", "first_name"],
          records.map fun c => [.text c.lastName, .text c.firstName]⟩ ∧
      ∀ other : Shop, other.customers.Perm shop.customers →
        other.execute ⟨.lastName, [.text name]⟩ = shop.execute ⟨.lastName, [.text name]⟩ := by
  refine ⟨shop.withLastName name, fun others => ?_, execute_lastName _ _, fun other hperm => ?_⟩
  · exact (shop.isFamily_withLastName name).iff_eq
  · have hsame : other.withLastName name = shop.withLastName name :=
      sortByName_eq_of_perm (hperm.filter _)
    rw [execute_lastName, execute_lastName, hsame]

/-- Two records of one number are both found, the later one first, and in the reverse order too. -/
theorem execute_lastName_cornerShop :
    cornerShop.customers.reverse.Perm cornerShop.customers ∧
    (Shop.mk cornerShop.customers.reverse [] []).execute ⟨.lastName, [.text "Smith"]⟩ =
      .ok ⟨["last_name", "first_name"],
        [[.text "Smith", .text "Ann"], [.text "Smith", .text "John"]]⟩ := by
  have hperm := cornerShop.customers.reverse_perm
  obtain ⟨records, hrecords, hresult, hother⟩ := execute_lastName_family cornerShop "Smith"
  have hfamily : cornerShop.IsFamily "Smith" [⟨1, "Smith", "Ann"⟩, ⟨1, "Smith", "John"⟩] :=
    ⟨.swap _ _ _, by decide⟩
  have hreversed := hother ⟨cornerShop.customers.reverse, [], []⟩ hperm
  refine ⟨hperm, hreversed.trans ?_⟩
  rw [hresult, ← (hrecords _).mp hfamily]
  rfl

end Shop

end ShopQuery
