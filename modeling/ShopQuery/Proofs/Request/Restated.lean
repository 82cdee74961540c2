import ShopQuery.Proofs.Json.Reordered
import ShopQuery.Proofs.Request.Plan
import ShopQuery.Proofs.SameOutcome

/-!
# Requests stated in another way

A request may be stated with its members, and the members of its items, in another order, and with
members that have nothing to do with its items (`Restated`). It has the same plan in every way of
stating it, but for the order of members in the items (`ofRequest_restated`).

## How the proof goes

`Restated` is the closure of single steps (`Restates`): the members of one object, at whatever
depth, change their order, or members are added at the end of the request. So it is enough to follow
one step, and to go on by induction on the steps. A step leaves the items the same up to reordering
(`items_restates`), and an item has the same query in every order of its members
(`ofItem_reordered`), because the reader only asks for members by their keys (`ReadsAlike`).

Keys are distinct at one end of a restatement if they are at the other, but only in one direction
when members are added: the added members could repeat keys of their own. The theorems therefore ask
it of the longer request, and the induction goes from the far end to the near one, so that
distinctness is handed down along the steps (`Restates.distinctKeys`).

`Restated.of_items` shows that the closure is as rich as it should be: any reordering of every item,
any added members and any order of the members of the request can be had at once.
-/

namespace ShopQuery.Plan

/-! ## 1. Ways of stating a request -/

/-- The members of an object change their order, in the request or at any depth in it, or members
are added to the request that list no items. -/
inductive Restates : Json → Json → Prop
  | reorders {request other : Json} (step : request.Reorders other) : Restates request other
  | adds {members more : List (String × Json)} (unrelated : "criterias" ∉ Json.keysOf more) :
    Restates (.object members) (.object (members ++ more))

/-- A request is another one, stated in another way. -/
def Restated : Json → Json → Prop := Relation.ReflTransGen Restates

theorem Restated.of_reordered {request other : Json} (h : request.Reordered other) :
    Restated request other := by
  induction h with
  | refl => exact Relation.ReflTransGen.refl
  | tail _ step ih => exact Relation.ReflTransGen.tail ih (.reorders step)

/-- All items may be reordered, members added and the members of the request reordered, all at
once. -/
theorem Restated.of_items {before after more other : List (String × Json)} {list moved : List Json}
    (items : List.Forall₂ Json.Reordered list moved) (unrelated : "criterias" ∉ Json.keysOf more)
    (perm : (before ++ ("criterias", .array moved) :: after ++ more).Perm other) :
    Restated (.object (before ++ ("criterias", .array list) :: after)) (.object other) := by
  have hitems := Restated.of_reordered ((Json.Reordered.array items).value "criterias" before after)
  have hadded : Restates (.object (before ++ ("criterias", .array moved) :: after))
      (.object (before ++ ("criterias", .array moved) :: after ++ more)) := .adds unrelated
  exact Relation.ReflTransGen.tail (Relation.ReflTransGen.tail hitems hadded)
    (.reorders (.members perm))

/-- Two queries ask the same, for items that differ in the order of members alone. -/
structure SameQuery (query other : PlannedQuery) : Prop where
  item : query.item.Reordered other.item
  kind : query.kind = other.kind
  statement : query.statement = other.statement

theorem SameQuery.trans (a b c : PlannedQuery) (h : SameQuery a b) (h' : SameQuery b c) :
    SameQuery a c :=
  ⟨h.item.trans h'.item, h.kind.trans h'.kind, h.statement.trans h'.statement⟩

/-! ## 2. Items -/

/-- Everything that is asked about the members of an item has the same answer. -/
structure ReadsAlike (members moved : List (String × Json)) : Prop where
  length : members.length = moved.length
  contains : ∀ key, Criteria.contains ⟨members⟩ key = Criteria.contains ⟨moved⟩ key
  string : ∀ key, Criteria.string ⟨members⟩ key = Criteria.string ⟨moved⟩ key
  int : ∀ key, Criteria.int ⟨members⟩ key = Criteria.int ⟨moved⟩ key

section

variable {members moved : List (String × Json)}

theorem ReadsAlike.classify_eq (h : ReadsAlike members moved) :
    Criteria.classify ⟨members⟩ = Criteria.classify ⟨moved⟩ := by
  have hkind : Criteria.hasKind ⟨members⟩ = Criteria.hasKind ⟨moved⟩ := by
    funext kind
    simp only [Criteria.hasKind, h.length, h.contains]
  unfold Criteria.classify
  rw [hkind]

theorem ReadsAlike.statement_eq (h : ReadsAlike members moved) (kind : CriteriaKind) :
    Criteria.statement ⟨members⟩ kind = Criteria.statement ⟨moved⟩ kind := by
  have hparam : Criteria.param ⟨members⟩ = Criteria.param ⟨moved⟩ := by
    funext field
    simp only [Criteria.param, h.string, h.int]
  unfold Criteria.statement
  rw [hparam]

theorem readsAlike_of_reorders (hnodup : (Json.keysOf members).Nodup)
    (h : Json.Reorders (.object members) (.object moved)) : ReadsAlike members moved where
  length := by
    cases h with
    | members perm => exact perm.length_eq
    | value step => simp
  contains key := by
    have hsome := Json.bind_lookup_eq (f := fun _ => some ()) (fun _ => rfl) hnodup h key
    simpa [Criteria.contains, Option.isSome_bind] using congrArg Option.isSome hsome
  string key := by
    rw [Criteria.string, Criteria.string, Json.bind_lookup_eq Json.Reorders.string?_eq hnodup h key]
  int key := by
    rw [Criteria.int, Criteria.int, Json.bind_lookup_eq Json.Reorders.int64?_eq hnodup h key]

end

/-- **An item has the same query in every order of its members.** -/
theorem ofItem_reorders {item moved : Json} (h : item.Reorders moved) (hitem : item.DistinctKeys) :
    SameOutcome SameQuery (ofItem item) (ofItem moved) := by
  have hobjects : ∀ {members other}, Json.Reorders (.object members) (.object other) →
      (Json.object members).DistinctKeys →
      SameOutcome SameQuery (ofItem (.object members)) (ofItem (.object other)) := by
    intro members other h hdistinct
    have halike := readsAlike_of_reorders (Json.distinctKeys_object_iff.mp hdistinct).1 h
    rw [ofItem_object, ofItem_object, halike.classify_eq]
    refine .after _ fun kind => ?_
    rw [halike.statement_eq]
    exact .after _ fun statement => .ok ⟨.single h, rfl, rfl⟩
  cases h with
  | members perm => exact hobjects (.members perm) hitem
  | value step => exact hobjects (.value step) hitem
  | item step => exact .error _

theorem ofItem_reordered {item moved : Json} (h : item.Reordered moved)
    (hitem : item.DistinctKeys) : SameOutcome SameQuery (ofItem item) (ofItem moved) := by
  induction h with
  | refl => exact .refl (fun query => ⟨.refl _, rfl, rfl⟩) _
  | tail hbefore step ih =>
    have hmid := (Json.Reordered.distinctKeys_iff hbefore).mp hitem
    exact ih.trans (ofItem_reorders step hmid) SameQuery.trans

/-! ## 3. Requests -/

section

variable {request other : Json}

/-- What a request says repeats no key, if another way of stating it does not. -/
theorem Restates.distinctKeys (h : Restates request other) (hother : other.DistinctKeys) :
    request.DistinctKeys := by
  cases h with
  | reorders step => exact step.distinctKeys_iff.mpr hother
  | adds =>
    obtain ⟨hkeys, hvalues⟩ := Json.distinctKeys_object_iff.mp hother
    rw [Json.keysOf, List.map_append] at hkeys
    exact .object hkeys.of_append_left fun member hmember =>
      hvalues member (List.mem_append_left _ hmember)

theorem rel_listed (h : Restates request other) (hrequest : request.DistinctKeys) :
    Option.Rel (List.Forall₂ Json.Reordered)
      ((request.member? "criterias").bind Json.items?)
      ((other.member? "criterias").bind Json.items?) := by
  have hrefl : ∀ list : List Json, List.Forall₂ Json.Reordered list list := fun list =>
    List.forall₂_same.mpr fun item _ => .refl item
  cases h with
  | adds unrelated =>
    rw [Json.member?, Json.member?, Json.lookup_append_of_notMem unrelated]
    exact rel_refl hrefl _
  | reorders step =>
    cases step with
    | item => exact .none
    | members perm =>
      have hnodup := (Json.distinctKeys_object_iff.mp hrequest).1
      exact Json.rel_bind_lookup hrefl Json.Reorders.items? hnodup (.members perm) _
    | value step =>
      have hnodup := (Json.distinctKeys_object_iff.mp hrequest).1
      exact Json.rel_bind_lookup hrefl Json.Reorders.items? hnodup (.value step) _

theorem items_restates (h : Restates request other) (hrequest : request.DistinctKeys) :
    SameOutcome (List.Forall₂ Json.Reordered) (items request) (items other) := by
  have hrel := rel_listed h hrequest
  unfold items
  generalize (request.member? "criterias").bind Json.items? = listed at hrel
  generalize (other.member? "criterias").bind Json.items? = listed' at hrel
  cases hrel with
  | none => exact .error _
  | some h =>
    cases h with
    | nil => exact .error _
    | cons hfirst hrest => exact .ok (.cons hfirst hrest)

/-- The items of a request are the same in every way of stating it, by induction on the steps from
one to the other. -/
theorem items_restated (h : Restated request other) (hother : other.DistinctKeys) :
    request.DistinctKeys ∧
      SameOutcome (List.Forall₂ Json.Reordered) (items request) (items other) := by
  induction h using Relation.ReflTransGen.head_induction_on with
  | refl =>
    exact ⟨hother, .refl (fun list => List.forall₂_same.mpr fun item _ => .refl item) _⟩
  | head step _ ih =>
    obtain ⟨hmid, hsame⟩ := ih
    have hfirst := step.distinctKeys hmid
    exact ⟨hfirst, (items_restates step hfirst).trans hsame fun _ _ _ hxs hys =>
      forall₂_trans hxs hys fun _ _ _ => Json.Reordered.trans⟩

/-- **A request has the same plan in every way of stating it**: the same kinds and statements in
the same order, or the same error. -/
theorem ofRequest_restated (h : Restated request other) (hother : other.DistinctKeys) :
    SameOutcome (List.Forall₂ SameQuery) (ofRequest request) (ofRequest other) := by
  obtain ⟨hrequest, hitems⟩ := items_restated h hother
  unfold ofRequest
  refine hitems.with_eq.bind fun list moved hlists => ?_
  obtain ⟨hlist, -, hmoved⟩ := hlists
  have hdistinct := distinctKeys_of_hasItems hrequest ((items_eq_ok_iff hrequest).mp hlist)
  have hboth := (List.forall₂_and_left _ _).mpr ⟨hdistinct, hmoved⟩
  exact .mapM hboth fun item moved hitem => ofItem_reordered hitem.2 hitem.1

end

end ShopQuery.Plan
