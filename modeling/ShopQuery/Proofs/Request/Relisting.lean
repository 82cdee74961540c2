import ShopQuery.Proofs.Json.RoundTrip
import ShopQuery.Proofs.Request.Plan

/-!
# Items listed again

The items of a plan are flat objects of texts and 64-bit integers (`Planned.flat`), so they survive
writing and reading. A request that lists them again is read as itself (`read_relist`) and has the
plan of the request they come from (`ofRequest_relist`).

Values in general do not survive: a number with a fraction is read as one that is near it, and an
object that is nested too deeply is not read at all. Flat objects have neither. That an item of a
plan is flat is seen from its query: each of its members has the key of some field, and a field is
bound with a text or an integer and with nothing else. As no key is repeated, the value that is
bound is the only one of the key. So this asks for distinct keys once more, and every value that was
read has them (`Json.distinctKeys_of_read`).
-/

namespace ShopQuery

namespace Json

/-- The object has texts and 64-bit integers for values, and repeats no key. -/
inductive Flat : Json → Prop
  | object {members : List (String × Json)} (keys : (keysOf members).Nodup)
    (values : ∀ member ∈ members, (∃ s, member.2 = .string s) ∨ ∃ n, member.2 = ofInt64 n) :
    Flat (.object members)

namespace Flat

variable {value : Json} (h : value.Flat)
include h

theorem integral : value.Integral := by
  obtain ⟨-, hvalues⟩ := h
  refine .object fun member hmember => ?_
  rcases hvalues member hmember with ⟨s, hs⟩ | ⟨n, hn⟩
  · exact hs ▸ .string s
  · exact hn ▸ .ofInt64 n

theorem distinctKeys : value.DistinctKeys := by
  obtain ⟨hkeys, hvalues⟩ := h
  refine .object hkeys fun member hmember => ?_
  rcases hvalues member hmember with ⟨s, hs⟩ | ⟨n, hn⟩
  · exact hs ▸ .string s
  · exact hn ▸ .number _

theorem depth_le : value.depth ≤ 1 := by
  obtain ⟨-, hvalues⟩ := h
  rw [depth, Nat.add_le_add_iff_right, depthOfMembers_le_iff]
  intro member hmember
  rcases hvalues member hmember with ⟨s, hs⟩ | ⟨n, hn⟩
  · rw [hs, depth] <;> simp
  · rw [hn, ofInt64, depth] <;> simp

end Flat

theorem distinctKeys_of_read {text : String} {value : Json} (h : read text = .ok value) :
    value.DistinctKeys := by
  unfold read at h
  obtain ⟨tree, -, rfl⟩ := map_eq_ok_iff.mp h
  exact distinctKeys_collapse tree

end Json

namespace Plan

/-! ## 1. Planned items -/

/-- **A planned item is flat.** Each of its keys is that of a field, which has the type that its
value is bound with. -/
theorem Planned.flat {item : Json} {query : PlannedQuery} (h : Planned item query)
    (hitem : item.DistinctKeys) : item.Flat := by
  obtain ⟨-, hkeys, hvalues⟩ := h
  obtain ⟨hnodup, -⟩ := Json.distinctKeys_object_iff.mp hitem
  refine .object hnodup fun ⟨key, value⟩ hmember => ?_
  obtain ⟨⟨_, type⟩, hfield, rfl⟩ :=
    List.mem_map.mp ((hkeys key).mp (Json.mem_keysOf.mpr ⟨value, hmember⟩))
  obtain ⟨param, -, hbinds⟩ := exists_of_forall₂_of_mem hvalues hfield
  have hlookup := (Json.lookup_eq_some_iff hnodup).mpr hmember
  cases hbinds with
  | text hbound =>
    rw [(Json.lookup_eq_some_iff hnodup).mpr hbound] at hlookup
    exact Or.inl ⟨_, (Option.some.inj hlookup).symm⟩
  | int hbound =>
    rw [(Json.lookup_eq_some_iff hnodup).mpr hbound] at hlookup
    exact Or.inr ⟨_, (Option.some.inj hlookup).symm⟩

/-- The items of a plan are flat, if the request repeats no key. -/
theorem flat_of_ofRequest {request : Json} (h : request.DistinctKeys) {plan : List PlannedQuery}
    (hplan : ofRequest request = .ok plan) : ∀ query ∈ plan, query.item.Flat := by
  unfold ofRequest at hplan
  obtain ⟨list, hlist, hplan⟩ := bind_eq_ok_iff.mp hplan
  have hdistinct := distinctKeys_of_hasItems h ((items_eq_ok_iff h).mp hlist)
  have hqueries := (List.forall₂_and_left _ _).mpr
    ⟨hdistinct, (mapM_ofItem_eq_ok_iff hdistinct).mp hplan⟩
  intro query hquery
  obtain ⟨item, -, hitem, hplanned⟩ := exists_of_forall₂_of_mem hqueries.flip hquery
  have hflat := hplanned.flat hitem
  cases hplanned
  exact hflat

/-! ## 2. The request that lists items -/

/-- The request that lists items. -/
def relist (list : List Json) : Json := .object [("criterias", .array list)]

/-- A request that lists the items of another has its plan. -/
theorem ofRequest_relist {request : Json} {list : List Json} (h : items request = .ok list) :
    items (relist list) = .ok list ∧ ofRequest (relist list) = ofRequest request := by
  have hitems : items (relist list) = .ok list := by
    unfold items at h
    split at h
    · cases h
      rfl
    · cases h
  refine ⟨hitems, ?_⟩
  unfold ofRequest
  rw [hitems, h]

/-- **A request that lists flat items is read from its compact text.** -/
theorem read_relist {list : List Json} (h : ∀ item ∈ list, item.Flat) :
    Json.read (relist list).print = .ok (relist list) := by
  have hintegral : (Json.array list).Integral := .array fun item hitem => (h item hitem).integral
  have hkeys : (Json.array list).DistinctKeys :=
    .array fun item hitem => (h item hitem).distinctKeys
  have hdepth : (Json.array list).depth ≤ 2 := by
    rw [Json.depth, Nat.add_le_add_iff_right, Json.depthOfItems_le_iff]
    exact fun item hitem => (h item hitem).depth_le
  refine Json.read_print (.object ?_) (.object (List.nodup_singleton _) ?_) ?_
  · simpa using hintegral
  · simpa using hkeys
  · rw [relist, Json.depth, Json.depthOfMembers, Json.depthOfMembers, Json.maxDepth]
    omega

end Plan

end ShopQuery
