import ShopQuery.Shop.Evaluate

/-!
# The order of customers

Customers are ordered by last name, first name and number, so only equal customers are equal in this
order (`Customer.ComesBefore` says the same without a comparison). Sorting by any such order puts a
list in it, and a list has one permutation that is in it.

That the number comes last is what makes answers unique: people may share both names, and a sort by
names alone would leave them in the order in which they were added. The comparisons are those of the
standard library, put one behind the other; that they are transitive, and that only equal values are
equal in them, are instances, from which the lemmas on sorting follow for any element type.
-/

namespace ShopQuery

/-! ## 1. Sorted lists -/

/-- Different elements are in strict order where only equal ones are equal in it. -/
theorem pairwise_lt_of_nodup {α : Type} {cmp : α → α → Ordering} [Std.LawfulEqCmp cmp] {xs : List α}
    (hnodup : xs.Nodup) (hsorted : xs.Pairwise fun a b => (cmp a b).isLE) :
    xs.Pairwise fun a b => cmp a b = .lt := by
  refine (hsorted.and hnodup).imp ?_
  rintro a b ⟨hle, hne⟩
  cases hcompare : cmp a b with
  | lt => rfl
  | eq => exact absurd (Std.LawfulEqCmp.eq_of_compare hcompare) hne
  | gt => simp [hcompare] at hle

section

variable {α : Type} (cmp : α → α → Ordering) [Std.TransCmp cmp]

/-- Sorting by an order puts a list in that order. -/
theorem pairwise_mergeSort_isLE (xs : List α) :
    (xs.mergeSort fun a b => (cmp a b).isLE).Pairwise fun a b => (cmp a b).isLE := by
  refine List.pairwise_mergeSort (fun a b c => Std.TransCmp.isLE_trans) (fun a b => ?_) xs
  have hswap : cmp a b = (cmp b a).swap := Std.OrientedCmp.eq_swap
  rw [hswap]
  cases cmp b a <;> rfl

variable {cmp}

/-- Permutations of each other are equal once they are in order. -/
theorem eq_of_perm_of_pairwise_isLE [Std.LawfulEqCmp cmp] {xs ys : List α} (h : xs.Perm ys)
    (hxs : xs.Pairwise fun a b => (cmp a b).isLE) (hys : ys.Pairwise fun a b => (cmp a b).isLE) :
    xs = ys := by
  refine h.eq_of_pairwise (fun a b _ _ hab hba => ?_) hxs hys
  exact Std.LawfulEqCmp.eq_of_compare (Std.OrientedCmp.isLE_antisymm hab hba)

end

/-! ## 2. Customers -/

instance : Ord Customer := ⟨Customer.compareByName⟩

instance : Std.TransOrd Customer :=
  inferInstanceAs <| Std.TransCmp <|
    compareLex (compareOn Customer.lastName)
      (compareLex (compareOn Customer.firstName) (compareOn (·.id.toInt)))

instance : Std.LawfulEqOrd Customer where
  eq_of_compare := by
    rintro ⟨id, lastName, firstName⟩ ⟨id', lastName', firstName'⟩ h
    change Customer.compareByName _ _ = .eq at h
    obtain ⟨hlast, hfirst, hid⟩ : lastName = lastName' ∧ firstName = firstName' ∧ id = id' := by
      simpa [Customer.compareByName, Ordering.then_eq_eq, Int64.toInt_inj] using h
    rw [hlast, hfirst, hid]

/-- Texts are compared by code point. -/
theorem compare_string_eq_lt_iff {a b : String} : compare a b = .lt ↔ a < b :=
  compareOfLessAndEq_eq_lt

namespace Customer

/-- By code point, the last name comes first, or else the first name, or else the number. -/
def ComesBefore (a b : Customer) : Prop :=
  a.lastName < b.lastName ∨ a.lastName = b.lastName ∧
    (a.firstName < b.firstName ∨ a.firstName = b.firstName ∧ a.id < b.id)

instance (a b : Customer) : Decidable (a.ComesBefore b) := inferInstanceAs (Decidable (_ ∨ _))

theorem compareByName_eq_lt_iff {a b : Customer} :
    a.compareByName b = .lt ↔ a.ComesBefore b := by
  unfold compareByName ComesBefore
  simp only [Ordering.then_eq_lt, compare_string_eq_lt_iff, Std.compare_eq_iff_eq,
    Int.compare_eq_lt, Int64.lt_iff_toInt_lt]

theorem ComesBefore.asymm {a b : Customer} (h : a.ComesBefore b) : ¬ b.ComesBefore a := by
  intro hback
  have hlt : compare a b = .lt := compareByName_eq_lt_iff.mpr h
  exact Std.OrientedCmp.not_lt_of_lt hlt (compareByName_eq_lt_iff.mpr hback)

/-- The first name comes before the other by code point, or it is the same and the number is not
greater. -/
def NotAfterByFirstName (a b : Customer) : Prop :=
  a.firstName < b.firstName ∨ a.firstName = b.firstName ∧ a.id ≤ b.id

instance (a b : Customer) : Decidable (a.NotAfterByFirstName b) :=
  inferInstanceAs (Decidable (_ ∨ _))

theorem isLE_compareByName_iff {a b : Customer} (h : a.lastName = b.lastName) :
    (a.compareByName b).isLE ↔ a.NotAfterByFirstName b := by
  have hlast : compare a.lastName b.lastName = .eq := Std.compare_eq_iff_eq.mpr h
  unfold compareByName NotAfterByFirstName
  rw [hlast, Ordering.eq_then]
  simp only [Ordering.isLE_then_iff_or, compare_string_eq_lt_iff, Std.compare_eq_iff_eq,
    Int.isLE_compare, Int64.le_iff_toInt_le]

end Customer

/-- Different customers are sorted strictly by name. -/
theorem pairwise_sortByName {customers : List Customer} (h : customers.Nodup) :
    (sortByName customers).Pairwise Customer.ComesBefore := by
  have hnodup : (sortByName customers).Nodup := (List.mergeSort_perm _ _).nodup_iff.mpr h
  have hsorted := pairwise_mergeSort_isLE compare customers
  exact (pairwise_lt_of_nodup hnodup hsorted).imp Customer.compareByName_eq_lt_iff.mp

/-- The order in which customers are given does not show once they are sorted. -/
theorem sortByName_eq_of_perm {customers others : List Customer} (h : customers.Perm others) :
    sortByName customers = sortByName others := by
  have hsorted : ∀ xs, (sortByName xs).Pairwise fun a b => (compare a b).isLE :=
    fun xs => pairwise_mergeSort_isLE compare xs
  refine eq_of_perm_of_pairwise_isLE ?_ (hsorted customers) (hsorted others)
  exact (List.mergeSort_perm _ _).trans (h.trans (List.mergeSort_perm _ _).symm)

/-! ## 3. Groups -/

instance : Std.TransCmp Shop.compareByCount :=
  inferInstanceAs <| Std.TransCmp <| compareLex (compareOn Group.count) (compareOn Group.customer)

end ShopQuery
