import Mathlib.Data.List.Nodup
import ShopQuery.Proofs.Shop.Order
import ShopQuery.Proofs.Shop.Totals

/-!
# The order in which records were added

The same records in another order (`Shop.Reordered`) give the same rows. Rows in another order make
groups of the same customers with the same counts, and with the same totals as far as there are any
(`forall₂_agrees_group`); what is made of groups depends on nothing else.

A total can be missing in one order and be there in another, so statements that add up agree only
where both succeed (`execute_reordered`).

## How the proof goes

Permuted records are joined to permuted rows (`perm_joined`), as a purchase has the same customer
and the same product in both shops (`joinOne_eq`). Permuted rows have the same numbers in ascending
order, and for each number permuted rows. Their count is the same, and so is an exact sum; the sum
as it is added up is exact where it is there. That is agreement (`Group.Agrees`), and it is kept by
all that evaluators do: those without totals see the tallies of groups and cannot tell the
difference (`map_tally_eq`), those with totals fail or have the same ones (`totals_unique`). Sorting
by an order in which only equal values are equal removes what is left of the original order.

## Why the conditions are there

Customers and products may change places only where no number is repeated among them. Otherwise the
first record with a number would be another one. Purchases have no numbers and may always change
places.
-/

namespace ShopQuery

/-! ## 1. Groups -/

namespace Group

/-- Groups of the same customer and count, whose totals do not contradict each other. -/
structure Agrees (a b : Group) : Prop where
  customer : a.customer = b.customer
  count : a.count = b.count
  total : ∀ m n, a.total = some m → b.total = some n → m = n

/-- What a group says apart from its total. -/
def tally (g : Group) : Customer × Nat := (g.customer, g.count)

section

variable {rows others : List (Customer × Product)} (h : rows.Perm others)
include h

theorem ids_eq_of_perm : ids rows = ids others := by
  have hperm : (ids rows).Perm (ids others) := by
    refine (List.perm_ext_iff_of_nodup (nodup_ids rows) (nodup_ids others)).mpr ?_
    intro id
    simp only [mem_ids, h.mem_iff]
  refine hperm.eq_of_pairwise ?_ (pairwise_ids rows) (pairwise_ids others)
  intro a b _ _ hab hba
  exact absurd hab (Int64.not_lt.mpr (Int64.le_of_lt hba))

/-- The rows of one number make the same group in any order, but for a total that is missing. -/
theorem agrees_of? (hrows : Coherent rows) (id : Int64) :
    Option.Rel Agrees (of? rows id) (of? others id) := by
  have hperm : (rowsOf rows id).Perm (rowsOf others id) := h.filter _
  have hsome : (∃ g, of? rows id = some g) ↔ ∃ g, of? others id = some g := by
    rw [exists_of?_eq_some_iff, exists_of?_eq_some_iff, not_iff_not, ← List.length_eq_zero_iff,
      hperm.length_eq, List.length_eq_zero_iff]
  cases hfirst : of? rows id with
  | none =>
    cases hsecond : of? others id with
    | none => exact .none
    | some g => simp [hfirst, hsecond] at hsome
  | some g =>
    cases hsecond : of? others id with
    | none => simp [hfirst, hsecond] at hsome
    | some g' =>
      obtain ⟨⟨row, hrow, hcustomer⟩, hcount, htotal⟩ := of?_eq_some_iff.mp hfirst
      obtain ⟨⟨row', hrow', hcustomer'⟩, hcount', htotal'⟩ := of?_eq_some_iff.mp hsecond
      refine .some ⟨?_, ?_, ?_⟩
      -- The group keeps the first customer of its rows, which coherence makes every row's customer.
      · have hmem := List.mem_of_mem_head? hrow
        have hmem' := hperm.symm.subset (List.mem_of_mem_head? hrow')
        rw [hcustomer, hcustomer']
        refine hrows row (List.mem_of_mem_filter hmem) row' (List.mem_of_mem_filter hmem') ?_
        rw [← hcustomer, ← hcustomer', id_of_of? hfirst, id_of_of? hsecond]
      · rw [hcount, hcount', hperm.length_eq]
      · intro m n hm hn
        rw [htotal] at hm
        rw [htotal'] at hn
        exact sumChecked_unique_of_perm (hperm.map _) hm hn

/-- **Rows in another order make groups that agree.** -/
theorem forall₂_agrees_group (hrows : Coherent rows) :
    List.Forall₂ Agrees (group rows) (group others) := by
  unfold group
  rw [← ids_eq_of_perm h]
  refine List.rel_filterMap (R := Eq) ?_ (List.forall₂_same.mpr fun _ _ => rfl)
  rintro id _ rfl
  exact agrees_of? h hrows id

end

variable {groups others : List Group}

theorem map_tally_eq (h : List.Forall₂ Agrees groups others) :
    groups.map tally = others.map tally := by
  induction h with
  | nil => rfl
  | cons hgroup _ ih =>
    rw [List.map_cons, List.map_cons, ih, tally, tally, hgroup.customer, hgroup.count]

/-- Totals that are there are the same where groups agree. -/
theorem totals_unique (h : List.Forall₂ Agrees groups others) {sums sums' : List (Customer × Int64)}
    (hsums : Shop.totals groups = .ok sums) (hsums' : Shop.totals others = .ok sums') :
    sums = sums' := by
  rw [Shop.totals_eq_ok_iff] at hsums hsums'
  induction h generalizing sums sums' with
  | nil =>
    cases hsums
    cases hsums'
    rfl
  | cons hgroup _ ih =>
    obtain ⟨⟨c, m⟩, rest, ⟨hcustomer, htotal⟩, hrest, rfl⟩ := List.forall₂_cons_left_iff.mp hsums
    obtain ⟨⟨c', n⟩, rest', ⟨hcustomer', htotal'⟩, hrest', rfl⟩ :=
      List.forall₂_cons_left_iff.mp hsums'
    have hsame : c = c' := hcustomer.symm.trans (hgroup.customer.trans hcustomer')
    rw [hsame, hgroup.total m n htotal htotal', ih hrest hrest']

end Group

/-! ## 2. Records by number -/

section

variable {α : Type} {key : α → Int64} {xs ys : List α}

theorem find?_key_eq_of_perm (h : xs.Perm ys) (hkeys : (xs.map key).Nodup) (id : Int64) :
    xs.find? (key · == id) = ys.find? (key · == id) := by
  have hkeys' : (ys.map key).Nodup := (h.map key).nodup_iff.mp hkeys
  refine Option.ext fun x => ?_
  rw [find?_key_eq_some_iff hkeys, find?_key_eq_some_iff hkeys', h.mem_iff]

end

namespace Shop

/-- A shop has the records of another in an order of its own: any purchases may change places, and
where no number of a customer or product is repeated, customers and products may as well. -/
inductive Reordered (shop : Shop) : Shop → Prop
  | purchases {purchases : List Purchase} (perm : shop.purchases.Perm purchases) :
    Reordered shop { shop with purchases }
  | records {other : Shop} (purchases : shop.purchases.Perm other.purchases)
    (customers : shop.customers.Perm other.customers)
    (products : shop.products.Perm other.products)
    (customerIds : (shop.customers.map Customer.id).Nodup)
    (productIds : (shop.products.map Product.id).Nodup) : Reordered shop other

namespace Reordered

variable {shop other : Shop} (h : shop.Reordered other)
include h

theorem perm_customers : shop.customers.Perm other.customers := by
  cases h with
  | purchases _ => exact .refl _
  | records _ hcustomers _ _ _ => exact hcustomers

/-- Numbers stand for the same customers and products, so purchases are joined as before. -/
theorem joinOne_eq (keep : Purchase → Product → Bool) : shop.joinOne keep = other.joinOne keep := by
  cases h with
  | purchases _ => rfl
  | records _ hcustomers hproducts hcustomerIds hproductIds =>
    funext p
    unfold joinOne customer? product?
    rw [find?_key_eq_of_perm hcustomers hcustomerIds, find?_key_eq_of_perm hproducts hproductIds]

theorem perm_joined (keep : Purchase → Product → Bool) :
    (shop.joined keep).Perm (other.joined keep) := by
  have hpurchases : shop.purchases.Perm other.purchases := by
    cases h with
    | purchases hpurchases => exact hpurchases
    | records hpurchases _ _ _ _ => exact hpurchases
  unfold joined
  rw [h.joinOne_eq keep]
  exact hpurchases.filterMap _

theorem agrees_groups (keep : Purchase → Product → Bool) :
    List.Forall₂ Group.Agrees (group (shop.joined keep)) (group (other.joined keep)) :=
  Group.forall₂_agrees_group (h.perm_joined keep) (shop.coherent_joined keep)

/-! ## 3. Evaluators -/

theorem withLastName_eq (name : String) : shop.withLastName name = other.withLastName name :=
  sortByName_eq_of_perm (h.perm_customers.filter _)

/-- Frequent buyers are made of tallies. -/
theorem frequentBuyers_eq (product : String) (least : Int64) :
    shop.frequentBuyers product least = other.frequentBuyers product least := by
  have htallies := Group.map_tally_eq (h.agrees_groups fun _ p => p.name == product)
  have hfound : ∀ groups : List Group,
      (groups.filter fun g => least.toInt ≤ g.count).map Group.customer =
        ((groups.map Group.tally).filter fun t => least.toInt ≤ t.2).map Prod.fst := by
    intro groups
    rw [List.filter_map, List.map_map]
    rfl
  unfold frequentBuyers
  dsimp only
  rw [hfound, htallies, ← hfound]

/-- The ranking is made of tallies, since it does not look at totals. -/
theorem ranking_eq : shop.ranking = other.ranking := by
  have htallies := Group.map_tally_eq (h.agrees_groups fun _ _ => true)
  have hsorted : ∀ groups : List Group,
      (groups.mergeSort fun a b => (compareByCount a b).isLE).map Group.customer =
        ((groups.map Group.tally).mergeSort fun a b =>
          ((compare a.2 b.2).then (a.1.compareByName b.1)).isLE).map Prod.fst := by
    intro groups
    have hmap := List.map_mergeSort (l := groups) (f := Group.tally)
      (r := fun a b => (compareByCount a b).isLE)
      (s := fun a b => ((compare a.2 b.2).then (a.1.compareByName b.1)).isLE)
      fun _ _ _ _ => rfl
    rw [← hmap, List.map_map]
    rfl
  unfold ranking
  rw [hsorted, htallies, ← hsorted]

theorem rarestBuyers_eq (limit : Int64) : shop.rarestBuyers limit = other.rarestBuyers limit := by
  unfold rarestBuyers
  rw [h.ranking_eq]

/-- Customers whose totals lie in a range are the same, if both shops have all totals. -/
theorem spending_unique {least greatest : Int64} {customers customers' : List Customer}
    (hspending : shop.spending least greatest = .ok customers)
    (hspending' : other.spending least greatest = .ok customers') : customers = customers' := by
  unfold spending at hspending hspending'
  obtain ⟨sums, hsums, hcustomers⟩ := bind_eq_ok_iff.mp hspending
  obtain ⟨sums', hsums', hcustomers'⟩ := bind_eq_ok_iff.mp hspending'
  have hsame := Group.totals_unique (h.agrees_groups fun _ _ => true) hsums hsums'
  rw [hsame] at hcustomers
  exact Except.ok.inj (hcustomers.symm.trans hcustomers')

theorem weekdaySpending_unique {start finish : Date} {sums sums' : List (Customer × Int64)}
    (hspending : shop.weekdaySpending start finish = .ok sums)
    (hspending' : other.weekdaySpending start finish = .ok sums') : sums = sums' := by
  unfold weekdaySpending at hspending hspending'
  obtain ⟨totals, htotals, hsums⟩ := bind_eq_ok_iff.mp hspending
  obtain ⟨totals', htotals', hsums'⟩ := bind_eq_ok_iff.mp hspending'
  have hsame := Group.totals_unique
    (h.agrees_groups fun purchase _ => onWeekdayIn start finish purchase) htotals htotals'
  rw [hsame] at hsums
  exact Except.ok.inj (hsums.symm.trans hsums')

/-! ## 4. Statements -/

/-- Statements without totals have the same rows, or the same fault. -/
theorem rows_eq {s : Statement}
    (hs : s.template ∈ [.lastName, .productFrequency, .badCustomers, .weekdayCount]) :
    shop.rows s = other.rows s := by
  obtain ⟨template, params⟩ := s
  unfold rows
  cases template with
  | lastName => simp only [h.withLastName_eq]
  | productFrequency => simp only [h.frequentBuyers_eq]
  | badCustomers => simp only [h.rarestBuyers_eq]
  | weekdayCount => rfl
  | expenseRange => simp at hs
  | customerExpenses => simp at hs

/-- Rows that are there are the same in the same order, for every statement. -/
theorem rows_unique {s : Statement} {found found' : List Row} (hfound : shop.rows s = .ok found)
    (hfound' : other.rows s = .ok found') : found = found' := by
  by_cases hs : s.template ∈ [.lastName, .productFrequency, .badCustomers, .weekdayCount]
  · rw [h.rows_eq hs, hfound'] at hfound
    exact (Except.ok.inj hfound).symm
  · obtain ⟨template, params⟩ := s
    unfold rows at hfound hfound'
    -- The order of the rows decides whether a partial sum overflows, so one shop may answer these
    -- two where the other fails; the rows are compared where both answer.
    cases template with
    | expenseRange =>
      simp only [bind_eq_ok_iff] at hfound hfound'
      obtain ⟨least, hleast, greatest, hgreatest, customers, hcustomers, hrows⟩ := hfound
      obtain ⟨_, hleast', _, hgreatest', customers', hcustomers', hrows'⟩ := hfound'
      cases hleast.symm.trans hleast'
      cases hgreatest.symm.trans hgreatest'
      rw [h.spending_unique hcustomers hcustomers'] at hrows
      exact Except.ok.inj (hrows.symm.trans hrows')
    | customerExpenses =>
      simp only [bind_eq_ok_iff] at hfound hfound'
      obtain ⟨start, hstart, finish, hfinish, sums, hsums, hrows⟩ := hfound
      obtain ⟨_, hstart', _, hfinish', sums', hsums', hrows'⟩ := hfound'
      cases hstart.symm.trans hstart'
      cases hfinish.symm.trans hfinish'
      rw [h.weekdaySpending_unique hsums hsums'] at hrows
      exact Except.ok.inj (hrows.symm.trans hrows')
    | _ => simp at hs

end Reordered

/-- **The order of records does not show in results.** A statement without totals comes to the same
result or the same error over the records in any order; a statement that adds up comes to the same
rows in the same order wherever it succeeds over both. -/
theorem execute_reordered {shop other : Shop} (h : shop.Reordered other) (s : Statement) :
    (s.template ∈ [.lastName, .productFrequency, .badCustomers, .weekdayCount] →
      shop.execute s = other.execute s) ∧
    ∀ result result', shop.execute s = .ok result → other.execute s = .ok result' →
      result = result' := by
  constructor
  · intro hs
    rw [execute_eq_resultOf, execute_eq_resultOf, h.rows_eq hs]
  · intro result result' hresult hresult'
    rw [execute_eq_resultOf, resultOf, mapError_eq_ok_iff, map_eq_ok_iff] at hresult hresult'
    obtain ⟨found, hfound, rfl⟩ := hresult
    obtain ⟨found', hfound', rfl⟩ := hresult'
    rw [h.rows_unique hfound hfound']

def reversed (shop : Shop) : Shop :=
  ⟨shop.customers.reverse, shop.products.reverse, shop.purchases.reverse⟩

/-- Two customers of one name, who have one purchase in common and one of them a second. -/
def namesakes : Shop where
  customers := [⟨2, "Smith", "John"⟩, ⟨1, "Smith", "John"⟩]
  products := [⟨10, "Tea", 5⟩, ⟨11, "Milk", -5⟩]
  purchases := [⟨1, 10, Date.first⟩, ⟨2, 11, Date.first⟩, ⟨1, 11, Date.first⟩]

/-- The reverse order does not show in the customers with the fewest purchases. -/
theorem execute_reordered_namesakes :
    namesakes.Reordered namesakes.reversed ∧
      namesakes.execute ⟨.badCustomers, [.int 1]⟩ =
        namesakes.reversed.execute ⟨.badCustomers, [.int 1]⟩ := by
  have h : namesakes.Reordered namesakes.reversed :=
    .records (List.reverse_perm _).symm (List.reverse_perm _).symm (List.reverse_perm _).symm
      (by decide) (by decide)
  exact ⟨h, (execute_reordered h _).1 (by decide)⟩

end Shop

end ShopQuery
