import Mathlib.Data.List.Nodup
import ShopQuery.Json.Basic

/-!
# Values whose objects repeat no key

`DistinctKeys` holds of a value none of whose objects repeats a key. Such are exactly the values
that a text has as a whole: collapsing makes them (`distinctKeys_collapse`) and changes none of them
(`collapse_of_distinctKeys`). In their objects a key has at most one value
(`lookup_eq_some_iff`).

## How the proof goes

An object is collapsed by setting its members one after the other, beginning with none. Setting a
member replaces the value of a key that is there, in its place, or puts a new key at the end. So the
keys are distinct after every step (`nodup_keysOf_setMember`), and where they were distinct before,
every step is of the second kind and the members come out as they went in
(`foldl_setMember_of_nodup`). Values are collapsed from the inside out, by induction on them.

Repeated keys matter in one more way. A place in an object may have the last value of its key, while
the key stood earlier too. What is around that value after collapsing does not depend on the value
(`exists_collapseMembers`), which is why a place can be filled with another one without a look at
the rest. The three lemmas before it follow that place through the members that are set behind it.

Values are nested in lists, so induction on them has to reach through the lists; `inductionOn` is
that induction with the lists as hypotheses on their members.
-/

namespace ShopQuery.Json

/-! ## 1. Induction -/

/-- Induction on values: an array may use what holds of its items, and an object what holds of the
values of its members. -/
@[elab_as_elim]
theorem inductionOn {P : Json → Prop} (value : Json) (null : P .null)
    (bool : ∀ b, P (.bool b)) (number : ∀ n, P (.number n)) (string : ∀ s, P (.string s))
    (array : ∀ items, (∀ item ∈ items, P item) → P (.array items))
    (object : ∀ members, (∀ member ∈ members, P member.2) → P (.object members)) : P value :=
  @Json.rec P (fun items => ∀ item ∈ items, P item) (fun members => ∀ member ∈ members, P member.2)
    (fun member => P member.2) null bool number string array object
    (fun _ h => nomatch h) (fun _ _ hhead hrest => List.forall_mem_cons.mpr ⟨hhead, hrest⟩)
    (fun _ h => nomatch h) (fun _ _ hhead hrest => List.forall_mem_cons.mpr ⟨hhead, hrest⟩)
    (fun _ _ h => h) value

/-! ## 2. Distinct keys -/

/-- The keys of members, in order. -/
def keysOf (members : List (String × Json)) : List String := members.map Prod.fst

/-- No object of the value repeats a key. -/
inductive DistinctKeys : Json → Prop
  | null : DistinctKeys .null
  | bool (value : Bool) : DistinctKeys (.bool value)
  | number (value : Json.Number) : DistinctKeys (.number value)
  | string (value : String) : DistinctKeys (.string value)
  | array {items : List Json} (items_distinct : ∀ item ∈ items, DistinctKeys item) :
    DistinctKeys (.array items)
  | object {members : List (String × Json)} (keys_nodup : (keysOf members).Nodup)
    (values_distinct : ∀ member ∈ members, DistinctKeys member.2) : DistinctKeys (.object members)

theorem distinctKeys_array_iff {items : List Json} :
    DistinctKeys (.array items) ↔ ∀ item ∈ items, item.DistinctKeys :=
  ⟨fun | .array h => h, .array⟩

theorem distinctKeys_object_iff {members : List (String × Json)} :
    DistinctKeys (.object members) ↔
      (keysOf members).Nodup ∧ ∀ member ∈ members, member.2.DistinctKeys :=
  ⟨fun | .object hkeys hvalues => ⟨hkeys, hvalues⟩, fun h => .object h.1 h.2⟩

/-- A key stands with some value. -/
theorem mem_keysOf {key : String} {members : List (String × Json)} :
    key ∈ keysOf members ↔ ∃ value, (key, value) ∈ members := by
  simp [keysOf]

/-- Where no key is repeated, a key has the value that stands with it. -/
theorem lookup_eq_some_iff {key : String} {members : List (String × Json)} {value : Json}
    (h : (keysOf members).Nodup) : lookup key members = some value ↔ (key, value) ∈ members := by
  induction members with
  | nil => simp [lookup]
  | cons head rest ih =>
    obtain ⟨k, v⟩ := head
    obtain ⟨hk, hrest⟩ := List.nodup_cons.mp h
    rw [lookup, List.mem_cons, Prod.mk.injEq]
    split
    · rename_i heq
      subst heq
      have hnone : (k, value) ∉ rest := fun hmem => hk (mem_keysOf.mpr ⟨value, hmem⟩)
      simp [hnone, eq_comm]
    · rename_i hne
      rw [ih hrest]
      simp [Ne.symm hne]

/-- Just the keys of the members can be looked up. -/
theorem isSome_lookup_iff {key : String} {members : List (String × Json)} :
    (lookup key members).isSome ↔ key ∈ keysOf members := by
  induction members with
  | nil => simp [lookup, keysOf]
  | cons head rest ih =>
    obtain ⟨k, v⟩ := head
    rw [lookup]
    split
    · rename_i heq
      simp [keysOf, heq]
    · rename_i hne
      rw [ih]
      simp [keysOf, Ne.symm hne]

/-! ## 3. Collapsing -/

/-- Items are collapsed each on its own. -/
theorem collapseItems_eq_map (items : List Json) : collapseItems items = items.map collapse := by
  induction items with
  | nil => rfl
  | cons item rest ih => rw [collapseItems, ih, List.map_cons]

/-- So are the values of members, under the keys they have. -/
theorem collapseValues_eq_map (members : List (String × Json)) :
    collapseValues members = members.map fun m => (m.1, m.2.collapse) := by
  induction members with
  | nil => rfl
  | cons head rest ih =>
    obtain ⟨key, value⟩ := head
    rw [collapseValues, ih, List.map_cons]

theorem keysOf_collapseValues (members : List (String × Json)) :
    keysOf (collapseValues members) = keysOf members := by
  rw [collapseValues_eq_map, keysOf, List.map_map]
  rfl

/-- A key that is not there yet is set at the end. -/
theorem setMember_of_notMem {key : String} {members : List (String × Json)}
    (h : key ∉ keysOf members) (value : Json) :
    setMember key value members = members ++ [(key, value)] := by
  induction members with
  | nil => rfl
  | cons head rest ih =>
    obtain ⟨k, v⟩ := head
    obtain ⟨hne, hrest⟩ := List.ne_and_not_mem_of_not_mem_cons h
    rw [setMember, if_neg (Ne.symm hne), ih hrest, List.cons_append]

/-- A key that is there already keeps its place. -/
theorem keysOf_setMember_of_mem {key : String} {members : List (String × Json)}
    (h : key ∈ keysOf members) (value : Json) :
    keysOf (setMember key value members) = keysOf members := by
  induction members with
  | nil => simp [keysOf] at h
  | cons head rest ih =>
    obtain ⟨k, v⟩ := head
    rw [setMember]
    split
    · rfl
    · rename_i hne
      have hrest : key ∈ keysOf rest := (List.mem_cons.mp h).resolve_left (Ne.symm hne)
      change k :: keysOf (setMember key value rest) = k :: keysOf rest
      rw [ih hrest]

/-- Setting a member repeats no key. -/
theorem nodup_keysOf_setMember {key : String} {members : List (String × Json)}
    (h : (keysOf members).Nodup) (value : Json) : (keysOf (setMember key value members)).Nodup := by
  by_cases hkey : key ∈ keysOf members
  · rwa [keysOf_setMember_of_mem hkey]
  · rw [setMember_of_notMem hkey]
    simpa [keysOf, List.nodup_append] using ⟨h, fun k v hmem heq =>
      hkey (mem_keysOf.mpr ⟨v, heq ▸ hmem⟩)⟩

/-- The members are the one that was set and those that were there. -/
theorem mem_setMember {key : String} {value : Json} {members : List (String × Json)}
    {member : String × Json} (h : member ∈ setMember key value members) :
    member.2 = value ∨ member ∈ members := by
  induction members with
  | nil =>
    rw [setMember, List.mem_singleton] at h
    exact Or.inl (by rw [h])
  | cons head rest ih =>
    obtain ⟨k, v⟩ := head
    rw [setMember] at h
    split at h
    · rcases List.mem_cons.mp h with rfl | h
      · exact Or.inl rfl
      · exact Or.inr (List.mem_cons_of_mem _ h)
    · rcases List.mem_cons.mp h with rfl | h
      · exact Or.inr List.mem_cons_self
      · exact (ih h).imp_right (List.mem_cons_of_mem _)

/-- Collapsing starts with no members, and every member that is set leaves the keys distinct. -/
theorem nodup_keysOf_collapseMembers (members : List (String × Json)) :
    (keysOf (collapseMembers members)).Nodup := by
  unfold collapseMembers
  refine List.foldlRecOn (motive := fun acc => (keysOf acc).Nodup) members _ List.nodup_nil ?_
  intro acc h member _
  exact nodup_keysOf_setMember h member.2

/-- Collapsing makes no value up. -/
theorem mem_collapseMembers {members : List (String × Json)} {member : String × Json}
    (h : member ∈ collapseMembers members) : ∃ source ∈ members, source.2 = member.2 := by
  unfold collapseMembers at h
  refine List.foldlRecOn (motive := fun acc =>
    ∀ m ∈ acc, ∃ source ∈ members, source.2 = m.2) members _ (by simp) ?_ member h
  intro acc hacc source hsource m hm
  rcases mem_setMember hm with heq | hold
  · exact ⟨source, hsource, heq.symm⟩
  · exact hacc m hold

/-- Members with distinct keys are set one after the other, behind those set before. -/
theorem foldl_setMember_of_nodup {acc members : List (String × Json)}
    (h : (keysOf (acc ++ members)).Nodup) :
    members.foldl (fun acc m => setMember m.1 m.2 acc) acc = acc ++ members := by
  induction members generalizing acc with
  | nil => rw [List.foldl_nil, List.append_nil]
  | cons head rest ih =>
    have hsplit : acc ++ head :: rest = (acc ++ [head]) ++ rest := by simp
    have hkey : head.1 ∉ keysOf acc := by
      have hall := h
      simp only [keysOf, List.map_append, List.map_cons, List.nodup_append] at hall
      exact fun hmem => hall.2.2 _ hmem _ List.mem_cons_self rfl
    rw [List.foldl_cons, setMember_of_notMem hkey, hsplit]
    exact ih (hsplit ▸ h)

/-- Members with distinct keys are kept as they are. -/
theorem collapseMembers_of_nodup {members : List (String × Json)} (h : (keysOf members).Nodup) :
    collapseMembers members = members := by
  have hall : (keysOf ([] ++ members)).Nodup := h
  exact foldl_setMember_of_nodup hall

/-- A member that is set stands somewhere, whatever its value is. -/
theorem exists_setMember (key : String) (members : List (String × Json)) :
    ∃ before after, ∀ value, setMember key value members = before ++ (key, value) :: after := by
  induction members with
  | nil => exact ⟨[], [], fun _ => rfl⟩
  | cons head rest ih =>
    obtain ⟨k, v⟩ := head
    by_cases hk : k = key
    · exact ⟨[], rest, fun value => by rw [setMember, if_pos hk, hk, List.nil_append]⟩
    · obtain ⟨before, after, hset⟩ := ih
      refine ⟨(k, v) :: before, after, fun value => ?_⟩
      rw [setMember, if_neg hk, hset, List.cons_append]

/-- Setting another member leaves it where it is. -/
theorem exists_setMember_other {key k : String} (hk : key ≠ k) (v : Json)
    (before after : List (String × Json)) :
    ∃ before' after', ∀ value, setMember k v (before ++ (key, value) :: after) =
      before' ++ (key, value) :: after' := by
  induction before with
  | nil =>
    exact ⟨[], setMember k v after, fun value => by
      rw [List.nil_append, setMember, if_neg hk, List.nil_append]⟩
  | cons head rest ih =>
    obtain ⟨k', v'⟩ := head
    by_cases hhead : k' = k
    · refine ⟨(k', v) :: rest, after, fun value => ?_⟩
      rw [List.cons_append, setMember, if_pos hhead, List.cons_append]
    · obtain ⟨before', after', hset⟩ := ih
      refine ⟨(k', v') :: before', after', fun value => ?_⟩
      rw [List.cons_append, setMember, if_neg hhead, hset, List.cons_append]

/-- Setting any number of others leaves a member between what is around it. -/
theorem exists_foldl_setMember {key : String} {members : List (String × Json)}
    (h : key ∉ keysOf members) (before after : List (String × Json)) :
    ∃ before' after', ∀ value,
      members.foldl (fun acc m => setMember m.1 m.2 acc) (before ++ (key, value) :: after) =
        before' ++ (key, value) :: after' := by
  induction members generalizing before after with
  | nil => exact ⟨before, after, fun _ => rfl⟩
  | cons head rest ih =>
    obtain ⟨hhead, hrest⟩ := List.ne_and_not_mem_of_not_mem_cons h
    obtain ⟨before', after', hset⟩ := exists_setMember_other hhead head.2 before after
    obtain ⟨before'', after'', hfoldl⟩ := ih hrest before' after'
    exact ⟨before'', after'', fun value => by rw [List.foldl_cons, hset, hfoldl]⟩

/-- The last value of a key is kept, whatever it is, and decides nothing else. -/
theorem exists_collapseMembers {key : String} {after : List (String × Json)}
    (h : key ∉ keysOf after) (before : List (String × Json)) :
    ∃ before' after', ∀ value, collapseMembers (before ++ (key, value) :: after) =
      before' ++ (key, value) :: after' := by
  obtain ⟨before', after', hset⟩ := exists_setMember key (collapseMembers before)
  obtain ⟨before'', after'', hfoldl⟩ := exists_foldl_setMember h before' after'
  refine ⟨before'', after'', fun value => ?_⟩
  unfold collapseMembers at hset ⊢
  rw [List.foldl_append, List.foldl_cons, hset, hfoldl]

/-- **Collapsing leaves no key repeated.** -/
theorem distinctKeys_collapse (value : Json) : value.collapse.DistinctKeys := by
  induction value using inductionOn with
  | null => exact .null
  | bool b => exact .bool b
  | number n => exact .number n
  | string s => exact .string s
  | array items ih =>
    rw [collapse, collapseItems_eq_map]
    exact .array (List.forall_mem_map.mpr ih)
  | object members ih =>
    rw [collapse, collapseValues_eq_map]
    refine .object (nodup_keysOf_collapseMembers _) fun member hmember => ?_
    obtain ⟨source, hsource, heq⟩ := mem_collapseMembers hmember
    obtain ⟨original, horiginal, rfl⟩ := List.mem_map.mp hsource
    rw [← heq]
    exact ih original horiginal

/-- **A value without repeated keys collapses to itself.** -/
theorem collapse_of_distinctKeys {value : Json} (h : value.DistinctKeys) :
    value.collapse = value := by
  induction h with
  | null | bool | number | string => rfl
  | array _ ih =>
    rw [collapse, collapseItems_eq_map, List.map_congr_left ih, List.map_id']
  | @object members hkeys _ ih =>
    have hvalues : members.map (fun m => (m.1, m.2.collapse)) = members := by
      conv_rhs => rw [← List.map_id' members]
      exact List.map_congr_left fun m hm => by rw [ih m hm]
    rw [collapse, collapseValues_eq_map, hvalues, collapseMembers_of_nodup hkeys]

/-- Collapsing leaves alone just the values without repeated keys. -/
theorem collapse_eq_self_iff {value : Json} : value.collapse = value ↔ value.DistinctKeys :=
  ⟨fun h => h ▸ distinctKeys_collapse value, collapse_of_distinctKeys⟩

end ShopQuery.Json
