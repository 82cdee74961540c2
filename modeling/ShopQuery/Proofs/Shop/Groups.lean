import Mathlib.Data.List.Nodup
import ShopQuery.Shop.Tables

/-!
# Groups of joined rows

One group stands for each customer's number in the rows, in ascending order of the numbers, and it
is made of exactly the rows with that number (`mem_group_iff`, `pairwise_group`). In a join these
are the purchases of that number (`rowsOf_joined`), and the groups are those of the stored customers
with such purchases (`of_mem_group_joined`, `exists_mem_group_joined_iff`), which they count
(`count_of_mem_group_joined`).

## Numbers and customers

Rows are grouped by numbers, and what is asked for are customers. Rows in general may have two
customers of one number, and then a group takes the first; `Coherent` rows do not. Those of a join
are coherent, because each has the customer that its number stands for, and a number stands for one
record: the first that was added with it. No condition is put on the tables for this. Numbers may be
repeated in them, and purchases may name customers and products that are not stored; the former are
found as the first record and the latter have no rows.

## How the proof goes

First the numbers alone: those of the rows, ascending and each once (`mem_ids`, `pairwise_ids`), by
induction on the rows. Then one group: there is one just for the numbers that have rows
(`of?_eq_some_iff`). Then the rows of one number in a join, as they stand in the table of purchases.
The lemmas on all groups put these three together, and no later proof unfolds how groups are made.
-/

namespace ShopQuery

/-! ## 1. Numbers -/

/-- Where no number is repeated, a number finds the record that has it. -/
theorem find?_key_eq_some_iff {α : Type} {key : α → Int64} {xs : List α}
    (hkeys : (xs.map key).Nodup) {id : Int64} {x : α} :
    xs.find? (key · == id) = some x ↔ x ∈ xs ∧ key x = id := by
  constructor
  · intro h
    exact ⟨List.mem_of_find?_eq_some h, by simpa using List.find?_some h⟩
  · rintro ⟨hx, rfl⟩
    cases hfind : xs.find? (key · == key x) with
    | none => simpa using List.find?_eq_none.mp hfind x hx
    | some y =>
      have hkey : key y = key x := by simpa using List.find?_some hfind
      rw [List.inj_on_of_nodup_map hkeys (List.mem_of_find?_eq_some hfind) hx hkey]

namespace Group

theorem mem_insertId {x id : Int64} {ids : List Int64} :
    x ∈ insertId id ids ↔ x = id ∨ x ∈ ids := by
  induction ids with
  | nil => simp [insertId]
  | cons head rest ih =>
    unfold insertId
    split
    · simp
    · split
      · rename_i heq
        subst heq
        simp
      · simp only [List.mem_cons, ih, or_left_comm]

theorem pairwise_insertId {id : Int64} {ids : List Int64} (h : ids.Pairwise (· < ·)) :
    (insertId id ids).Pairwise (· < ·) := by
  induction ids with
  | nil => simp [insertId]
  | cons head rest ih =>
    obtain ⟨hhead, hrest⟩ := List.pairwise_cons.mp h
    unfold insertId
    split
    · rename_i hlt
      refine List.pairwise_cons.mpr ⟨fun x hx => ?_, h⟩
      rcases List.mem_cons.mp hx with rfl | hx
      · exact hlt
      · exact Int64.lt_trans hlt (hhead x hx)
    · split
      · exact h
      · rename_i hlt hne
        refine List.pairwise_cons.mpr ⟨fun x hx => ?_, ih hrest⟩
        rcases mem_insertId.mp hx with rfl | hx
        · exact Int64.lt_of_le_of_ne (Int64.not_lt.mp hlt) (Ne.symm hne)
        · exact hhead x hx

theorem mem_ids {rows : List (Customer × Product)} {id : Int64} :
    id ∈ ids rows ↔ ∃ row ∈ rows, row.1.id = id := by
  unfold ids
  induction rows with
  | nil => simp
  | cons row rest ih =>
    simp only [List.foldr_cons, mem_insertId, ih, List.mem_cons, exists_eq_or_imp]
    constructor <;> rintro (h | h)
    · exact Or.inl h.symm
    · exact Or.inr h
    · exact Or.inl h.symm
    · exact Or.inr h

theorem pairwise_ids (rows : List (Customer × Product)) : (ids rows).Pairwise (· < ·) := by
  unfold ids
  induction rows with
  | nil => exact .nil
  | cons row rest ih => exact pairwise_insertId ih

theorem nodup_ids (rows : List (Customer × Product)) : (ids rows).Nodup :=
  (pairwise_ids rows).imp Int64.ne_of_lt

/-- A number stands for one customer in all rows. -/
def Coherent (rows : List (Customer × Product)) : Prop :=
  ∀ a ∈ rows, ∀ b ∈ rows, a.1.id = b.1.id → a.1 = b.1

/-! ## 2. The group of one number -/

/-- The rows of the customer with a number. -/
def rowsOf (rows : List (Customer × Product)) (id : Int64) : List (Customer × Product) :=
  rows.filter (·.1.id == id)

/-- A group sums up the rows of its number, of which there is at least one. -/
theorem of?_eq_some_iff {rows : List (Customer × Product)} {id : Int64} {g : Group} :
    of? rows id = some g ↔
      (∃ row ∈ (rowsOf rows id).head?, g.customer = row.1) ∧
      g.count = (rowsOf rows id).length ∧
      g.total = sumChecked ((rowsOf rows id).map (·.2.price)) := by
  unfold of? rowsOf
  cases rows.filter (·.1.id == id) with
  | nil => simp [ofRows?]
  | cons row rest =>
    obtain ⟨customer, count, total⟩ := g
    simp only [ofRows?, Option.some.injEq, Group.mk.injEq, List.head?_cons, Option.mem_def,
      exists_eq_left']
    constructor
    · rintro ⟨rfl, rfl, rfl⟩
      exact ⟨rfl, rfl, rfl⟩
    · rintro ⟨rfl, rfl, rfl⟩
      exact ⟨rfl, rfl, rfl⟩

theorem exists_of?_eq_some_iff {rows : List (Customer × Product)} {id : Int64} :
    (∃ g, of? rows id = some g) ↔ rowsOf rows id ≠ [] := by
  unfold of? rowsOf
  cases rows.filter (·.1.id == id) <;> simp [ofRows?]

theorem rowsOf_ne_nil_iff {rows : List (Customer × Product)} {id : Int64} :
    rowsOf rows id ≠ [] ↔ id ∈ ids rows := by
  simp [rowsOf, mem_ids]

theorem id_of_of? {rows : List (Customer × Product)} {id : Int64} {g : Group}
    (h : of? rows id = some g) : g.customer.id = id := by
  obtain ⟨⟨row, hrow, hcustomer⟩, -, -⟩ := of?_eq_some_iff.mp h
  have hmem : row ∈ rowsOf rows id := List.mem_of_mem_head? hrow
  rw [hcustomer]
  simpa [rowsOf] using (List.mem_filter.mp hmem).2

end Group

/-! ## 3. The rows of one number in a join -/

namespace Shop

theorem id_of_customer? {shop : Shop} {id : Int64} {c : Customer} (h : shop.customer? id = some c) :
    c.id = id := by
  simpa using List.find?_some h

theorem mem_of_customer? {shop : Shop} {id : Int64} {c : Customer}
    (h : shop.customer? id = some c) : c ∈ shop.customers :=
  List.mem_of_find?_eq_some h

/-- A stored record's number has a customer: the first record with it. -/
theorem exists_customer?_of_mem {shop : Shop} {c : Customer} (h : c ∈ shop.customers) :
    ∃ first, shop.customer? c.id = some first := by
  cases hfind : shop.customer? c.id with
  | some first => exact ⟨first, rfl⟩
  | none => simpa using List.find?_eq_none.mp hfind c h

/-- A purchase is joined with the customer and the product that its numbers stand for. -/
theorem joinOne_eq_some_iff {shop : Shop} {keep : Purchase → Product → Bool} {p : Purchase}
    {row : Customer × Product} :
    shop.joinOne keep p = some row ↔
      shop.customer? p.customer = some row.1 ∧ shop.product? p.product = some row.2 ∧
        keep p row.2 = true := by
  obtain ⟨c, q⟩ := row
  simp only [joinOne, Option.bind_eq_bind, Option.bind_eq_some_iff, Option.ite_none_right_eq_some,
    Option.some.injEq, Prod.mk.injEq]
  constructor
  · rintro ⟨_, hcustomer, _, hproduct, hkeep, rfl, rfl⟩
    exact ⟨hcustomer, hproduct, hkeep⟩
  · rintro ⟨hcustomer, hproduct, hkeep⟩
    exact ⟨c, hcustomer, q, hproduct, hkeep, rfl, rfl⟩

/-- Joined rows carry the customer that their number stands for. -/
theorem customer?_of_mem_joined {shop : Shop} {keep : Purchase → Product → Bool}
    {row : Customer × Product} (h : row ∈ shop.joined keep) :
    shop.customer? row.1.id = some row.1 := by
  obtain ⟨p, _, hjoin⟩ := List.mem_filterMap.mp h
  obtain ⟨hcustomer, -, -⟩ := joinOne_eq_some_iff.mp hjoin
  rwa [id_of_customer? hcustomer]

theorem coherent_joined (shop : Shop) (keep : Purchase → Product → Bool) :
    Group.Coherent (shop.joined keep) := by
  intro a ha b hb hid
  have hcustomer := customer?_of_mem_joined ha
  rw [hid, customer?_of_mem_joined hb] at hcustomer
  exact (Option.some.inj hcustomer).symm

/-- The rows of a stored customer are the customer's purchases of wanted products. -/
theorem rowsOf_joined {shop : Shop} {id : Int64} {c : Customer} (h : shop.customer? id = some c)
    (keep : Purchase → Product → Bool) :
    Group.rowsOf (shop.joined keep) id =
      (shop.purchases.filter (·.customer == id)).filterMap fun p =>
        ((shop.product? p.product).filter (keep p)).map (c, ·) := by
  unfold Group.rowsOf joined
  rw [List.filter_filterMap, List.filterMap_filter]
  congr 1
  funext p
  unfold joinOne
  by_cases hid : p.customer = id
  · subst hid
    have hself := id_of_customer? h
    cases shop.product? p.product with
    | none => simp [h]
    | some q => by_cases hkeep : keep p q <;> simp [h, hself, hkeep, Option.filter]
  · cases hcustomer : shop.customer? p.customer with
    | none => simp [hid]
    | some buyer =>
      have hbuyer : buyer.id ≠ id := by rwa [id_of_customer? hcustomer]
      cases shop.product? p.product with
      | none => simp [hid]
      | some q => by_cases hkeep : keep p q <;> simp [hid, hbuyer, hkeep, Option.filter]

/-- How often the customer with a number bought a stored product in a way that is wanted. -/
def boughtCount (shop : Shop) (keep : Purchase → Product → Bool) (id : Int64) : Nat :=
  shop.purchases.countP fun p => p.customer == id && (shop.product? p.product).any (keep p)

theorem length_rowsOf_joined {shop : Shop} {id : Int64} {c : Customer}
    (h : shop.customer? id = some c) (keep : Purchase → Product → Bool) :
    (Group.rowsOf (shop.joined keep) id).length = shop.boughtCount keep id := by
  rw [rowsOf_joined h, List.length_filterMap_eq_countP, List.countP_filter]
  unfold boughtCount
  congr 1
  funext p
  cases shop.product? p.product with
  | none => simp
  | some q => by_cases hkeep : keep p q <;> simp [hkeep, Option.filter]

/-- A stored customer has rows where something was bought. -/
theorem rowsOf_joined_ne_nil_iff {shop : Shop} {id : Int64} {c : Customer}
    (h : shop.customer? id = some c) {keep : Purchase → Product → Bool} :
    Group.rowsOf (shop.joined keep) id ≠ [] ↔ 0 < shop.boughtCount keep id := by
  rw [← length_rowsOf_joined h, List.length_pos_iff]

end Shop

/-! ## 4. All groups -/

theorem mem_group_iff {rows : List (Customer × Product)} {g : Group} :
    g ∈ group rows ↔ Group.of? rows g.customer.id = some g := by
  unfold group
  rw [List.mem_filterMap]
  constructor
  · rintro ⟨id, -, h⟩
    rwa [Group.id_of_of? h]
  · intro h
    exact ⟨g.customer.id, Group.rowsOf_ne_nil_iff.mp (Group.exists_of?_eq_some_iff.mp ⟨g, h⟩), h⟩

/-- Groups stand in ascending order of their numbers, so each number has one group. -/
theorem pairwise_group (rows : List (Customer × Product)) :
    (group rows).Pairwise fun a b => a.customer.id < b.customer.id := by
  unfold group
  rw [List.pairwise_filterMap]
  refine (Group.pairwise_ids rows).imp fun {id later} hlt => ?_
  intro a ha b hb
  rwa [Group.id_of_of? ha, Group.id_of_of? hb]

/-- The numbers of groups are those of the rows. -/
theorem mem_map_id_group {rows : List (Customer × Product)} {id : Int64} :
    id ∈ (group rows).map (·.customer.id) ↔ id ∈ Group.ids rows := by
  rw [← Group.rowsOf_ne_nil_iff, ← Group.exists_of?_eq_some_iff, List.mem_map]
  constructor
  · rintro ⟨g, hg, rfl⟩
    exact ⟨g, mem_group_iff.mp hg⟩
  · rintro ⟨g, hg⟩
    have hid := Group.id_of_of? hg
    exact ⟨g, mem_group_iff.mpr (by rwa [hid]), hid⟩

theorem nodup_map_id_group (rows : List (Customer × Product)) :
    ((group rows).map (·.customer.id)).Nodup :=
  List.pairwise_map.mpr ((pairwise_group rows).imp Int64.ne_of_lt)

/-- No customer has two groups. -/
theorem nodup_map_customer_group (rows : List (Customer × Product)) :
    ((group rows).map Group.customer).Nodup := by
  refine List.pairwise_map.mpr ((pairwise_group rows).imp fun {a b} hlt heq => ?_)
  rw [heq] at hlt
  exact Int64.lt_irrefl hlt

namespace Shop

/-- The numbers of a join are those of the purchases with rows. -/
theorem mem_ids_joined {shop : Shop} {keep : Purchase → Product → Bool} {id : Int64} :
    id ∈ Group.ids (shop.joined keep) ↔
      ∃ p ∈ shop.purchases, p.customer = id ∧ (shop.joinOne keep p).isSome := by
  have hid : ∀ {p row}, shop.joinOne keep p = some row → row.1.id = p.customer :=
    fun hrow => id_of_customer? (joinOne_eq_some_iff.mp hrow).1
  unfold joined
  simp only [Group.mem_ids, List.mem_filterMap, Option.isSome_iff_exists]
  constructor
  · rintro ⟨row, ⟨p, hp, hrow⟩, rfl⟩
    exact ⟨p, hp, (hid hrow).symm, row, hrow⟩
  · rintro ⟨p, hp, rfl, row, hrow⟩
    exact ⟨row, ⟨p, hp, hrow⟩, hid hrow⟩

/-- A group of a join is that of a stored customer and sums up the customer's rows. -/
theorem of_mem_group_joined {shop : Shop} {keep : Purchase → Product → Bool} {g : Group}
    (h : g ∈ group (shop.joined keep)) :
    shop.customer? g.customer.id = some g.customer ∧
      g.count = (Group.rowsOf (shop.joined keep) g.customer.id).length ∧
      g.total = sumChecked ((Group.rowsOf (shop.joined keep) g.customer.id).map (·.2.price)) := by
  obtain ⟨⟨row, hrow, hcustomer⟩, hcount, htotal⟩ := Group.of?_eq_some_iff.mp (mem_group_iff.mp h)
  have hjoined := (List.mem_filter.mp (List.mem_of_mem_head? hrow)).1
  have hstored := customer?_of_mem_joined hjoined
  rw [← hcustomer] at hstored
  exact ⟨hstored, hcount, htotal⟩

/-- The customers of groups are the stored ones with rows. -/
theorem exists_mem_group_joined_iff {shop : Shop} {keep : Purchase → Product → Bool}
    {c : Customer} :
    (∃ g ∈ group (shop.joined keep), g.customer = c) ↔
      shop.customer? c.id = some c ∧ Group.rowsOf (shop.joined keep) c.id ≠ [] := by
  constructor
  · rintro ⟨g, hg, rfl⟩
    exact ⟨(of_mem_group_joined hg).1, Group.exists_of?_eq_some_iff.mp ⟨g, mem_group_iff.mp hg⟩⟩
  · rintro ⟨hstored, hrows⟩
    obtain ⟨g, hg⟩ := Group.exists_of?_eq_some_iff.mpr hrows
    have hid := Group.id_of_of? hg
    have hmem := mem_group_iff.mpr (by rwa [hid])
    have hcustomer := (of_mem_group_joined hmem).1
    rw [hid, hstored] at hcustomer
    exact ⟨g, hmem, (Option.some.inj hcustomer).symm⟩

/-- A group of a join counts what its customer bought. -/
theorem count_of_mem_group_joined {shop : Shop} {keep : Purchase → Product → Bool} {g : Group}
    (h : g ∈ group (shop.joined keep)) : g.count = shop.boughtCount keep g.customer.id := by
  obtain ⟨hstored, hcount, -⟩ := of_mem_group_joined h
  rw [hcount, length_rowsOf_joined hstored]

/-- The customers of groups are the stored ones who bought something. -/
theorem mem_map_customer_group_joined {shop : Shop} {keep : Purchase → Product → Bool}
    {c : Customer} :
    c ∈ (group (shop.joined keep)).map Group.customer ↔
      shop.customer? c.id = some c ∧ 0 < shop.boughtCount keep c.id := by
  rw [List.mem_map, exists_mem_group_joined_iff]
  exact and_congr_right fun hstored => rowsOf_joined_ne_nil_iff hstored

end Shop

end ShopQuery
