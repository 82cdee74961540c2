import Mathlib.Algebra.GroupWithZero.Nat
import Mathlib.Data.List.Induction
import ShopQuery.Proofs.Number.CheckedSum
import ShopQuery.Proofs.Shop.Groups

/-!
# Groups made row by row

Groups can be kept while rows come in: a row is added to the group of its customer's number, or
begins one (`Group.addRow`). Groups that are kept so are those of the rows so far
(`group_eq_foldl`), for both stand in ascending order and answer alike for every number
(`ofId?_addRow`, `of?_append_row`).

What a group says is said of the rows of its number alone, and altogether the groups count every row
once (`group_exact`).

## How the proof goes

Lists of groups in ascending order are the same if they have the same group for every number
(`Ascending.ext`). So neither side of `group_append_row` is looked into any further than this: what
a number has after one more row. On the one side that is the recursion of `addRow`, on the other the
sum of a list with one more price. Both add to the group of the row's number, or to an empty group,
and leave the others alone. From one row more, all rows follow by induction from the end of the
list.

The step also shows why a missing total stays missing: the sum so far is all that is kept, and
nothing can be added to a sum that did not fit. So a total is there exactly where all partial sums
fit, in the order of the rows, and it is exact then (`SumsUp`).

That rows are coherent is asked because a group has one customer to show. If rows of one number had
different ones, it would show the first.
-/

namespace ShopQuery

namespace Group

/-! ## 1. Groups by number -/

/-- Groups in ascending order of their customers' numbers. -/
def Ascending (groups : List Group) : Prop :=
  groups.Pairwise fun a b => a.customer.id < b.customer.id

/-- The group of a number, if there is one. -/
def ofId? (groups : List Group) (id : Int64) : Option Group :=
  groups.find? (·.customer.id == id)

theorem ofId?_cons (g : Group) (groups : List Group) (id : Int64) :
    ofId? (g :: groups) id = if g.customer.id = id then some g else ofId? groups id := by
  by_cases h : g.customer.id = id <;> simp [ofId?, h]

theorem Ascending.nodup_map_id {groups : List Group} (h : Ascending groups) :
    (groups.map (·.customer.id)).Nodup :=
  List.pairwise_map.mpr (h.imp Int64.ne_of_lt)

theorem Ascending.ofId?_eq_some_iff {groups : List Group} (h : Ascending groups) {id : Int64}
    {g : Group} : ofId? groups id = some g ↔ g ∈ groups ∧ g.customer.id = id :=
  find?_key_eq_some_iff h.nodup_map_id

/-- A number below the first one has no group. -/
theorem Ascending.ofId?_eq_none_of_lt {g : Group} {groups : List Group}
    (h : Ascending (g :: groups)) {id : Int64} (hid : id < g.customer.id) :
    ofId? (g :: groups) id = none := by
  have hlater : ∀ later ∈ g :: groups, id < later.customer.id :=
    List.forall_mem_cons.mpr ⟨hid, fun later hlater =>
      Int64.lt_trans hid ((List.pairwise_cons.mp h).1 later hlater)⟩
  refine List.find?_eq_none.mpr fun later hmem heq => ?_
  exact Int64.ne_of_lt (hlater later hmem) (beq_iff_eq.mp heq).symm

/-- Ascending groups that answer alike for every number are the same. -/
theorem Ascending.ext {groups others : List Group} (h : Ascending groups) (h' : Ascending others)
    (heq : ∀ id, ofId? groups id = ofId? others id) : groups = others := by
  have hperm : groups.Perm others := by
    refine (List.perm_ext_iff_of_nodup (.of_map _ h.nodup_map_id)
      (.of_map _ h'.nodup_map_id)).mpr fun g => ?_
    have hmem : ofId? groups g.customer.id = some g ↔ ofId? others g.customer.id = some g := by
      rw [heq]
    rw [h.ofId?_eq_some_iff, h'.ofId?_eq_some_iff] at hmem
    simpa using hmem
  refine hperm.eq_of_pairwise ?_ h h'
  intro a b _ _ hab hba
  exact absurd hab (Int64.not_lt.mpr (Int64.le_of_lt hba))

theorem ofId?_group (rows : List (Customer × Product)) (id : Int64) :
    ofId? (group rows) id = of? rows id := by
  refine Option.ext fun g => ?_
  rw [Ascending.ofId?_eq_some_iff (pairwise_group rows), mem_group_iff]
  constructor
  · rintro ⟨h, rfl⟩
    exact h
  · intro h
    have hid := id_of_of? h
    exact ⟨hid ▸ h, hid⟩

/-! ## 2. One more row -/

/-- A group that has no rows yet. -/
def start (customer : Customer) : Group := ⟨customer, 0, some 0⟩

/-- A group with one more row of its customer. A total that is missing stays missing. -/
def add (g : Group) (product : Product) : Group :=
  { g with count := g.count + 1, total := g.total.bind (addChecked · product.price) }

/-- Ascending groups with one more row. -/
def addRow (row : Customer × Product) : List Group → List Group
  | [] => [(start row.1).add row.2]
  | g :: rest =>
    if row.1.id < g.customer.id then (start row.1).add row.2 :: g :: rest
    else if row.1.id = g.customer.id then g.add row.2 :: rest
    else g :: addRow row rest

@[simp] theorem customer_add (g : Group) (product : Product) :
    (g.add product).customer = g.customer := rfl

@[simp] theorem customer_start (customer : Customer) : (start customer).customer = customer := rfl

theorem id_of_mem_addRow {row : Customer × Product} {groups : List Group} {g : Group}
    (h : g ∈ addRow row groups) :
    g.customer.id = row.1.id ∨ ∃ old ∈ groups, g.customer.id = old.customer.id := by
  induction groups with
  | nil =>
    rw [addRow, List.mem_singleton] at h
    exact Or.inl (h ▸ rfl)
  | cons head rest ih =>
    unfold addRow at h
    split at h
    · rcases List.mem_cons.mp h with rfl | h
      · exact Or.inl rfl
      · exact Or.inr ⟨g, h, rfl⟩
    · split at h
      · rcases List.mem_cons.mp h with rfl | h
        · exact Or.inr ⟨head, List.mem_cons_self, rfl⟩
        · exact Or.inr ⟨g, List.mem_cons_of_mem _ h, rfl⟩
      · rcases List.mem_cons.mp h with rfl | h
        · exact Or.inr ⟨g, List.mem_cons_self, rfl⟩
        · rcases ih h with h | ⟨old, hold, h⟩
          · exact Or.inl h
          · exact Or.inr ⟨old, List.mem_cons_of_mem _ hold, h⟩

/-- **Groups stay in ascending order.** -/
theorem ascending_addRow {groups : List Group} (h : Ascending groups) (row : Customer × Product) :
    Ascending (addRow row groups) := by
  induction groups with
  | nil => simp [Ascending, addRow]
  | cons head rest ih =>
    obtain ⟨hhead, hrest⟩ := List.pairwise_cons.mp h
    unfold addRow
    split
    · rename_i hlt
      refine List.pairwise_cons.mpr ⟨fun g hg => ?_, h⟩
      rcases List.mem_cons.mp hg with rfl | hg
      · exact hlt
      · exact Int64.lt_trans hlt (hhead g hg)
    · split
      · exact List.pairwise_cons.mpr ⟨hhead, hrest⟩
      · rename_i hlt hne
        refine List.pairwise_cons.mpr ⟨fun g hg => ?_, ih hrest⟩
        rcases id_of_mem_addRow hg with hid | ⟨old, hold, hid⟩
        · rw [hid]
          exact Int64.lt_of_le_of_ne (Int64.not_lt.mp hlt) (Ne.symm hne)
        · rw [hid]
          exact hhead old hold

/-- **A row changes the group of its own number only.** -/
theorem ofId?_addRow {groups : List Group} (h : Ascending groups) (row : Customer × Product)
    (id : Int64) :
    ofId? (addRow row groups) id =
      if row.1.id = id then some (((ofId? groups id).getD (start row.1)).add row.2)
      else ofId? groups id := by
  induction groups with
  | nil => simp [addRow, ofId?]
  | cons head rest ih =>
    have hrest := (List.pairwise_cons.mp h).2
    unfold addRow
    split
    -- A new group in front: the list is ascending, so the key was in none of the others.
    · rename_i hlt
      rw [ofId?_cons, customer_add, customer_start]
      by_cases hid : row.1.id = id
      · rw [if_pos hid, if_pos hid, h.ofId?_eq_none_of_lt (hid ▸ hlt), Option.getD_none]
      · rw [if_neg hid, if_neg hid]
    · split
      · rename_i heq
        by_cases hid : head.customer.id = id <;> simp [ofId?_cons, heq, hid]
      · rename_i hne
        by_cases hid : head.customer.id = id
        · simp [ofId?_cons, hid, hid ▸ hne]
        · simp [ofId?_cons, hid, ih hrest]

/-! ## 3. All rows -/

theorem ofRows?_append_row (rows : List (Customer × Product)) (row : Customer × Product) :
    ofRows? (rows ++ [row]) = some (((ofRows? rows).getD (start row.1)).add row.2) := by
  cases rows with
  | nil => rfl
  | cons head rest =>
    simp [ofRows?, add, sumChecked]

/-- The group of a number after one more row. -/
theorem of?_append_row (rows : List (Customer × Product)) (row : Customer × Product) (id : Int64) :
    of? (rows ++ [row]) id =
      if row.1.id = id then some (((of? rows id).getD (start row.1)).add row.2)
      else of? rows id := by
  unfold of?
  by_cases hid : row.1.id = id
  · simp [List.filter_append, hid, ofRows?_append_row]
  · simp [List.filter_append, hid]

/-- **The groups of one row more.** -/
theorem group_append_row (rows : List (Customer × Product)) (row : Customer × Product) :
    group (rows ++ [row]) = addRow row (group rows) := by
  have hgroups : Ascending (group rows) := pairwise_group rows
  refine Ascending.ext (pairwise_group _) (ascending_addRow hgroups row) fun id => ?_
  rw [ofId?_group, of?_append_row, ofId?_addRow hgroups, ofId?_group]

/-- **Groups are made row by row.** -/
theorem group_eq_foldl (rows : List (Customer × Product)) :
    group rows = rows.foldl (fun groups row => addRow row groups) [] := by
  induction rows using List.reverseRecOn with
  | nil => rfl
  | append_singleton rows row ih => rw [group_append_row, ih, List.foldl_append]; rfl

/-- A row is counted once, in whatever group. -/
theorem sum_count_addRow (row : Customer × Product) (groups : List Group) :
    ((addRow row groups).map count).sum = (groups.map count).sum + 1 := by
  induction groups with
  | nil => rfl
  | cons head rest ih =>
    unfold addRow
    split
    · simp [add, start, Nat.add_comm]
    · split
      · simp [add, Nat.add_right_comm]
      · simp [ih, Nat.add_assoc]

theorem sum_count_group (rows : List (Customer × Product)) :
    ((group rows).map count).sum = rows.length := by
  induction rows using List.reverseRecOn with
  | nil => rfl
  | append_singleton rows row ih =>
    rw [group_append_row, sum_count_addRow, ih, List.length_append, List.length_singleton]

/-! ## 4. What a group says -/

/-- What rows cost, in order. -/
def prices (rows : List (Customer × Product)) : List Int64 := rows.map (·.2.price)

/-- A group says of rows whose they are, how many they are and what they cost altogether, unless a
partial sum of that does not fit. -/
structure SumsUp (rows : List (Customer × Product)) (g : Group) : Prop where
  customer : ∀ row ∈ rows, row.1 = g.customer
  count : g.count = rows.length
  count_pos : 1 ≤ g.count
  total_of_fits : (∀ n, Fits (exactSum ((prices rows).take n))) →
    ∃ total, g.total = some total ∧ total.toInt = exactSum (prices rows)
  total_of_not_fits : (∃ n, ¬ Fits (exactSum ((prices rows).take n))) → g.total = none

theorem sumsUp_of?_eq_some {rows : List (Customer × Product)} (hrows : Coherent rows) {id : Int64}
    {g : Group} (h : of? rows id = some g) : g.SumsUp (rowsOf rows id) := by
  obtain ⟨⟨first, hfirst, hcustomer⟩, hcount, htotal⟩ := of?_eq_some_iff.mp h
  have hnonempty : rowsOf rows id ≠ [] := exists_of?_eq_some_iff.mp ⟨g, h⟩
  refine ⟨fun row hrow => ?_, hcount, ?_, fun hfits => ?_, fun hfits => ?_⟩
  · obtain ⟨hrow, hid⟩ := List.mem_filter.mp hrow
    obtain ⟨hfirst, hid'⟩ := List.mem_filter.mp (List.mem_of_mem_head? hfirst)
    rw [hcustomer]
    exact hrows row hrow first hfirst ((beq_iff_eq.mp hid).trans (beq_iff_eq.mp hid').symm)
  · rw [hcount]
    exact List.length_pos_iff.mpr hnonempty
  · cases hsum : g.total with
    | none =>
      obtain ⟨n, hn⟩ := sumChecked_eq_none_iff.mp (htotal.symm.trans hsum)
      exact absurd (hfits n) hn
    | some total => exact ⟨total, rfl, (sumChecked_eq_some_iff.mp (htotal.symm.trans hsum)).2⟩
  · exact htotal.trans (sumChecked_eq_none_iff.mpr hfits)

end Group

/-- **Grouping loses and duplicates nothing.** Adding rows one by one leaves one group for each
number in them, in ascending order. It sums up the rows of its number, and no other rows have a say
in it; together the groups count all rows. -/
theorem group_exact {rows : List (Customer × Product)} (h : Group.Coherent rows) :
    group rows = rows.foldl (fun groups row => Group.addRow row groups) [] ∧
    Group.Ascending (group rows) ∧
    (∀ id, id ∈ (group rows).map (·.customer.id) ↔ ∃ row ∈ rows, row.1.id = id) ∧
    (∀ g ∈ group rows, g.SumsUp (Group.rowsOf rows g.customer.id)) ∧
    ((group rows).map Group.count).sum = rows.length ∧
    ∀ others id, Group.rowsOf others id = Group.rowsOf rows id →
      Group.ofId? (group others) id = Group.ofId? (group rows) id := by
  refine ⟨Group.group_eq_foldl rows, pairwise_group rows, fun id => ?numbers, fun g hg => ?sums,
    Group.sum_count_group rows, fun others id hothers => ?alone⟩
  case numbers => rw [mem_map_id_group, Group.mem_ids]
  case sums => exact Group.sumsUp_of?_eq_some h (mem_group_iff.mp hg)
  case alone =>
    rw [Group.ofId?_group, Group.ofId?_group]
    exact congrArg Group.ofRows? hothers

/-- The rows of two customers in turn, the one spending and being refunded, the other spending more
than fits. -/
def rowsInTurn : List (Customer × Product) :=
  let john : Customer := ⟨1, "Smith", "John"⟩
  let mary : Customer := ⟨2, "Jones", "Mary"⟩
  [(mary, ⟨10, "Yacht", Int64.maxValue⟩), (john, ⟨11, "Gum", 1⟩), (mary, ⟨11, "Gum", 1⟩),
    (john, ⟨12, "Refund", -1⟩), (mary, ⟨12, "Refund", -1⟩)]

/-- The first total is zero, and the second one is missing although it would fit again. -/
theorem group_exact_rowsInTurn :
    Group.Coherent rowsInTurn ∧
    (rowsInTurn.foldl (fun groups row => Group.addRow row groups) []).map
      (fun g => (g.customer.id, g.count, g.total)) = [(1, 2, some 0), (2, 3, none)] ∧
    ((group rowsInTurn).map Group.count).sum = 5 := by
  have hcoherent : Group.Coherent rowsInTurn := by
    unfold Group.Coherent
    decide
  obtain ⟨hfold, -, -, -, hcount, -⟩ := group_exact hcoherent
  exact ⟨hcoherent, hfold ▸ rfl, hcount⟩

end ShopQuery
