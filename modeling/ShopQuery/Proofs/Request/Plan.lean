import Mathlib.Data.List.Perm.Subperm
import ShopQuery.Proofs.FirstFailure
import ShopQuery.Proofs.Json.Values
import ShopQuery.Request.Plan

/-!
# Which requests have a plan

`Planned` says which items have a query, and which: an item whose keys are those of a kind and whose
values have the types of that kind. `Faulty` says what is wrong with every other item. A request has
a plan exactly where all its items are planned, and otherwise the error of its first faulty item
(`ofRequest_iff`).

## What is said of an item

The reader of an item counts its members, looks up the keys of one kind after the other, and takes
the first kind that fits; then it looks up the value of each field. Nothing of this is in `Planned`
and `Faulty`. They speak of the members as they stand in the object, of the kinds with their fields
(`Shape`), and of the first field in the order of the parameters whose value has another type.

That kinds are tried in some order does not show, because no object has the keys of two kinds
(`kind_unique`): each kind has a key that is in no other (`exists_own_key`). That the members are
counted and not compared does not show either, as long as no key is repeated: as many keys as a kind
has, and all of its keys among them, are its keys (`hasKind_iff`). This is where the theorems ask
for distinct keys, and it is the only condition on a request that they have. A value that was read
from a text meets it always.

## How the proof goes

From the inside out, with an `iff` for success and one for every error at each level, so that the
next level never looks into the one below: the value of a key (`string_eq_ok_iff`,
`int_eq_ok_iff`), the parameter of a field (`param_eq_ok_iff`), the statement of a kind
(`statement_eq_ok_iff`), the item (`ofItem_eq_ok_iff`, `ofItem_eq_error_iff`), the list
(`mapM_ofItem_eq_ok_iff`), the request. Where a list is gone through and may stop, at the fields of
a kind and at the items of a request, the first failure is found by `mapM_eq_error_iff`.
-/

namespace ShopQuery.Plan

/-! ## 1. What is planned -/

/-- The kinds of criteria, the keys of each with their types in the order of the parameters, and the
template that the values are bound to. -/
inductive Shape : CriteriaKind → List (String × FieldType) → Template → Prop
  | lastName : Shape .lastName [("lastName", .string)] .lastName
  | productFrequency :
    Shape .productFrequency [("productName", .string), ("minTimes", .number)] .productFrequency
  | expenseRange :
    Shape .expenseRange [("minExpenses", .number), ("maxExpenses", .number)] .expenseRange
  | badCustomers : Shape .badCustomers [("badCustomers", .number)] .badCustomers

/-- The keys of members are those of fields, in any order. -/
def HasKeys (members : List (String × Json)) (fields : List (String × FieldType)) : Prop :=
  ∀ key, key ∈ Json.keysOf members ↔ key ∈ fields.map Prod.fst

/-- Members have a value of a field's type, which is bound as a parameter. -/
inductive Binds (members : List (String × Json)) : String × FieldType → Param → Prop
  | text {key : String} {value : String} (mem : (key, .string value) ∈ members) :
    Binds members (key, .string) (.text value)
  | int {key : String} {value : Int64} (mem : (key, .ofInt64 value) ∈ members) :
    Binds members (key, .number) (.int value)

/-- An item has a query: its keys are those of a shape and its values have the types of it. -/
inductive Planned : Json → PlannedQuery → Prop
  | object {members : List (String × Json)} {kind : CriteriaKind}
    {fields : List (String × FieldType)} {template : Template} {params : List Param}
    (shape : Shape kind fields template) (keys : HasKeys members fields)
    (values : List.Forall₂ (Binds members) fields params) :
    Planned (.object members) ⟨.object members, kind, ⟨template, params⟩⟩

/-- What is wrong with an item: it is no object, its keys are those of no shape, or a value is the
first that does not have its type. -/
inductive Faulty : Json → Error → Prop
  | noObject {item : Json} (shape : ∀ members, item ≠ .object members) :
    Faulty item .wrongCriteriaShape
  | unknownKeys {members : List (String × Json)}
    (keys : ∀ kind fields template, Shape kind fields template → ¬ HasKeys members fields) :
    Faulty (.object members) .unknownCriteria
  | wrongType {members : List (String × Json)} {kind : CriteriaKind} {template : Template}
    {before after : List (String × FieldType)} {key : String} {type : FieldType}
    (shape : Shape kind (before ++ (key, type) :: after) template)
    (keys : HasKeys members (before ++ (key, type) :: after))
    (earlier : ∀ field ∈ before, ∃ param, Binds members field param)
    (value : ∀ param, ¬ Binds members (key, type) param) :
    Faulty (.object members) (.wrongFieldType key type)

/-- A request lists items: it is an object, and they are its criteria, at least one. -/
def HasItems (request : Json) (items : List Json) : Prop :=
  items ≠ [] ∧ ∃ members, request = .object members ∧ ("criterias", .array items) ∈ members

/-! ## 2. Kinds -/

theorem shape_iff {kind : CriteriaKind} {fields : List (String × FieldType)}
    {template : Template} :
    Shape kind fields template ↔ fields = kind.fields ∧ template = kind.template := by
  constructor
  · rintro (_ | _ | _ | _) <;> exact ⟨rfl, rfl⟩
  · rintro ⟨rfl, rfl⟩
    cases kind
    · exact .lastName
    · exact .productFrequency
    · exact .expenseRange
    · exact .badCustomers

theorem nodup_fields (kind : CriteriaKind) : (kind.fields.map Prod.fst).Nodup := by
  cases kind <;> decide

theorem mem_all (kind : CriteriaKind) : kind ∈ CriteriaKind.all := by
  cases kind <;> decide

/-- Every kind has a key that no other kind has. -/
theorem exists_own_key : ∀ kind ∈ CriteriaKind.all, ∃ key ∈ kind.fields.map Prod.fst,
    ∀ other ∈ CriteriaKind.all, key ∈ other.fields.map Prod.fst → other = kind := by decide

/-- Members have the keys of one kind at most. -/
theorem kind_unique {members : List (String × Json)} {kind other : CriteriaKind}
    (h : HasKeys members kind.fields) (hother : HasKeys members other.fields) : other = kind := by
  obtain ⟨key, hkey, hown⟩ := exists_own_key kind (mem_all kind)
  exact hown other (mem_all other) ((hother key).mp ((h key).mpr hkey))

section

variable {members : List (String × Json)} (hnodup : (Json.keysOf members).Nodup)
include hnodup

/-- As many keys as a kind has, and all of its keys among them, are its keys. -/
theorem hasKind_iff {kind : CriteriaKind} :
    Criteria.hasKind ⟨members⟩ kind = true ↔ HasKeys members kind.fields := by
  have hcontains : (kind.fields.all fun f => Criteria.contains ⟨members⟩ f.1) = true ↔
      kind.fields.map Prod.fst ⊆ Json.keysOf members := by
    simp only [List.all_eq_true, Criteria.contains, Json.isSome_lookup_iff, List.subset_def,
      List.forall_mem_map]
  unfold Criteria.hasKind
  rw [Bool.and_eq_true, beq_iff_eq, hcontains]
  -- Fields repeat no key, so they fill the members when they are as many.
  constructor
  · rintro ⟨hlength, hsubset⟩
    have hperm : (kind.fields.map Prod.fst).Perm (Json.keysOf members) :=
      (List.subperm_of_subset (nodup_fields kind) hsubset).perm_of_length_le
        (by simp [Json.keysOf, hlength])
    exact fun key => hperm.symm.mem_iff
  · intro h
    have hperm : (Json.keysOf members).Perm (kind.fields.map Prod.fst) :=
      (List.perm_ext_iff_of_nodup hnodup (nodup_fields kind)).mpr h
    exact ⟨by simpa [Json.keysOf] using hperm.length_eq, hperm.symm.subset⟩

theorem classify_eq_ok_iff {kind : CriteriaKind} :
    Criteria.classify ⟨members⟩ = .ok kind ↔ HasKeys members kind.fields := by
  unfold Criteria.classify
  cases hfind : CriteriaKind.all.find? (Criteria.hasKind ⟨members⟩) with
  | none =>
    have hnone := List.find?_eq_none.mp hfind kind (mem_all kind)
    simpa [hasKind_iff hnodup] using hnone
  | some found =>
    have hfound := (hasKind_iff hnodup).mp (List.find?_some hfind)
    simp only [Except.ok.injEq]
    constructor
    · rintro rfl
      exact hfound
    · exact fun h => kind_unique h hfound

theorem classify_eq_error_iff {e : Error} :
    Criteria.classify ⟨members⟩ = .error e ↔
      e = .unknownCriteria ∧ ∀ kind : CriteriaKind, ¬ HasKeys members kind.fields := by
  simp only [← classify_eq_ok_iff hnodup]
  unfold Criteria.classify
  split <;> simp [eq_comm]

/-! ## 3. Values -/

theorem string_eq_ok_iff {key s : String} :
    Criteria.string ⟨members⟩ key = .ok s ↔ (key, .string s) ∈ members := by
  rw [← Json.lookup_eq_some_iff hnodup]
  unfold Criteria.string
  cases Json.lookup key members with
  | none => simp
  | some value =>
    rw [Option.bind_some, Option.some.injEq, ← Json.string?_eq_some_iff]
    cases value.string? <;> simp

theorem int_eq_ok_iff {key : String} {n : Int64} :
    Criteria.int ⟨members⟩ key = .ok n ↔ (key, .ofInt64 n) ∈ members := by
  rw [← Json.lookup_eq_some_iff hnodup]
  unfold Criteria.int
  cases Json.lookup key members with
  | none => simp
  | some value =>
    rw [Option.bind_some, Option.some.injEq, ← Json.int64?_eq_some_iff]
    cases value.int64? <;> simp

/-- A field is a parameter exactly where its value is bound. -/
theorem param_eq_ok_iff {field : String × FieldType} {param : Param} :
    Criteria.param ⟨members⟩ field = .ok param ↔ Binds members field param := by
  obtain ⟨key, type⟩ := field
  unfold Criteria.param
  cases type with
  | string =>
    rw [map_eq_ok_iff]
    constructor
    · rintro ⟨s, hs, rfl⟩
      exact .text ((string_eq_ok_iff hnodup).mp hs)
    · rintro ⟨hmem⟩
      exact ⟨_, (string_eq_ok_iff hnodup).mpr hmem, rfl⟩
  | number =>
    rw [map_eq_ok_iff]
    constructor
    · rintro ⟨n, hn, rfl⟩
      exact .int ((int_eq_ok_iff hnodup).mp hn)
    · rintro (_ | ⟨hmem⟩)
      exact ⟨_, (int_eq_ok_iff hnodup).mpr hmem, rfl⟩

/-- A field that is no parameter is reported with its key and its type. -/
theorem param_eq_error_iff {key : String} {type : FieldType} {e : Error} :
    Criteria.param ⟨members⟩ (key, type) = .error e ↔
      e = .wrongFieldType key type ∧ ∀ param, ¬ Binds members (key, type) param := by
  simp only [← param_eq_ok_iff hnodup]
  unfold Criteria.param Criteria.string Criteria.int
  cases type with
  | string => dsimp only; split <;> simp [Except.map, eq_comm]
  | number => dsimp only; split <;> simp [Except.map, eq_comm]

theorem statement_eq_ok_iff {kind : CriteriaKind} {statement : Statement} :
    Criteria.statement ⟨members⟩ kind = .ok statement ↔
      statement.template = kind.template ∧
        List.Forall₂ (Binds members) kind.fields statement.params := by
  unfold Criteria.statement
  simp only [bind_eq_ok_iff, mapM_eq_ok_iff, param_eq_ok_iff hnodup]
  constructor
  · rintro ⟨params, hparams, h⟩
    cases h
    exact ⟨rfl, hparams⟩
  · rintro ⟨htemplate, hparams⟩
    refine ⟨statement.params, hparams, ?_⟩
    rw [← htemplate]
    rfl

/-- The first field that is no parameter decides the error. -/
theorem statement_eq_error_iff {kind : CriteriaKind} {e : Error} :
    Criteria.statement ⟨members⟩ kind = .error e ↔
      ∃ before key type after, kind.fields = before ++ (key, type) :: after ∧
        (∀ field ∈ before, ∃ param, Binds members field param) ∧
        (∀ param, ¬ Binds members (key, type) param) ∧ e = .wrongFieldType key type := by
  unfold Criteria.statement
  rw [bind_eq_error_iff, mapM_eq_error_iff]
  simp only [param_eq_ok_iff hnodup]
  constructor
  · rintro (⟨before, ⟨key, type⟩, after, hfields, hbefore, herror⟩ | ⟨params, -, h⟩)
    · obtain ⟨he, hvalue⟩ := (param_eq_error_iff hnodup).mp herror
      exact ⟨before, key, type, after, hfields, hbefore, hvalue, he⟩
    · cases h
  · rintro ⟨before, key, type, after, hfields, hbefore, hvalue, he⟩
    exact Or.inl ⟨before, (key, type), after, hfields, hbefore,
      (param_eq_error_iff hnodup).mpr ⟨he, hvalue⟩⟩

end

/-! ## 4. Items -/

theorem ofItem_object (members : List (String × Json)) :
    ofItem (.object members) = (do
      let kind ← Criteria.classify ⟨members⟩
      let statement ← Criteria.statement ⟨members⟩ kind
      return ⟨.object members, kind, statement⟩) := rfl

theorem ofItem_of_ne_object {item : Json} (h : ∀ members, item ≠ .object members) :
    ofItem item = .error .wrongCriteriaShape := by
  cases item with
  | object members => exact absurd rfl (h members)
  | _ => rfl

/-- **An item has a query exactly where it is planned, and that query.** -/
theorem ofItem_eq_ok_iff {item : Json} (h : item.DistinctKeys) {query : PlannedQuery} :
    ofItem item = .ok query ↔ Planned item query := by
  cases h with
  | object hnodup _ =>
    rw [ofItem_object]
    simp only [bind_eq_ok_iff, classify_eq_ok_iff hnodup, statement_eq_ok_iff hnodup]
    constructor
    · rintro ⟨kind, hkeys, ⟨template, params⟩, ⟨rfl, hvalues⟩, h⟩
      cases h
      exact .object (shape_iff.mpr ⟨rfl, rfl⟩) hkeys hvalues
    · rintro ⟨hshape, hkeys, hvalues⟩
      obtain ⟨rfl, rfl⟩ := shape_iff.mp hshape
      exact ⟨_, hkeys, _, ⟨rfl, hvalues⟩, rfl⟩
  | _ =>
    rw [ofItem_of_ne_object (by simp)]
    exact ⟨nofun, nofun⟩

/-- **An item has an error exactly where it is faulty, and that error.** -/
theorem ofItem_eq_error_iff {item : Json} (h : item.DistinctKeys) {e : Error} :
    ofItem item = .error e ↔ Faulty item e := by
  cases h with
  | @object members hnodup _ =>
    rw [ofItem_object]
    simp only [bind_eq_error_iff, classify_eq_ok_iff hnodup, classify_eq_error_iff hnodup,
      statement_eq_error_iff hnodup]
    -- Three ways to fail: no kind has the keys, or a field has another type, or the item is no
    -- object.
    constructor
    · rintro (⟨rfl, hkeys⟩ | ⟨kind, hkeys, hstatement | ⟨statement, -, h⟩⟩)
      · refine .unknownKeys fun kind fields template hshape => ?_
        rw [(shape_iff.mp hshape).1]
        exact hkeys kind
      · obtain ⟨before, key, type, after, hfields, hbefore, hvalue, rfl⟩ := hstatement
        rw [hfields] at hkeys
        exact .wrongType (shape_iff.mpr ⟨hfields.symm, rfl⟩) hkeys hbefore hvalue
      · cases h
    · intro hfaulty
      cases hfaulty with
      | noObject hshape => exact absurd rfl (hshape members)
      | unknownKeys hkeys =>
        exact Or.inl ⟨rfl, fun kind => hkeys kind _ _ (shape_iff.mpr ⟨rfl, rfl⟩)⟩
      | wrongType hshape hkeys hbefore hvalue =>
        obtain ⟨hfields, -⟩ := shape_iff.mp hshape
        rw [hfields] at hkeys
        exact Or.inr ⟨_, hkeys, Or.inl ⟨_, _, _, _, hfields.symm, hbefore, hvalue, rfl⟩⟩
  | _ =>
    rw [ofItem_of_ne_object (by simp)]
    constructor
    · intro h
      cases h
      exact .noObject (by simp)
    · intro h
      cases h
      rfl

/-! ## 5. Requests -/

theorem hasItems_iff {request : Json} (h : request.DistinctKeys) {list : List Json} :
    HasItems request list ↔
      list ≠ [] ∧ (request.member? "criterias").bind Json.items? = some list := by
  refine and_congr_right fun _ => ?_
  simp only [Option.bind_eq_some_iff, Json.items?_eq_some_iff, exists_eq_right]
  cases h with
  | object hnodup _ =>
    rw [Json.member?, Json.lookup_eq_some_iff hnodup]
    simp
  | _ => simp [Json.member?]

theorem items_eq_ok_iff {request : Json} (h : request.DistinctKeys) {list : List Json} :
    items request = .ok list ↔ HasItems request list := by
  rw [hasItems_iff h]
  unfold items
  split
  · rename_i first rest hitems
    rw [hitems]
    constructor
    · intro hok
      cases hok
      exact ⟨by simp, rfl⟩
    · rintro ⟨-, hsome⟩
      cases hsome
      rfl
  · rename_i hnone
    constructor
    · nofun
    · rintro ⟨hne, hsome⟩
      cases list with
      | nil => exact absurd rfl hne
      | cons first rest => exact absurd hsome (hnone first rest)

theorem items_eq_error_iff {request : Json} (h : request.DistinctKeys) {e : Error} :
    items request = .error e ↔ e = .missingCriterias ∧ ∀ list, ¬ HasItems request list := by
  simp only [← items_eq_ok_iff h]
  unfold items
  split <;> simp [eq_comm]

/-- The items of a request repeat no key where the request repeats none. -/
theorem distinctKeys_of_hasItems {request : Json} (h : request.DistinctKeys) {list : List Json}
    (hlist : HasItems request list) : ∀ item ∈ list, item.DistinctKeys := by
  obtain ⟨-, members, rfl, hmem⟩ := hlist
  exact Json.distinctKeys_array_iff.mp ((Json.distinctKeys_object_iff.mp h).2 _ hmem)

/-- A list has a plan exactly where all its items are planned. -/
theorem mapM_ofItem_eq_ok_iff {list : List Json} (h : ∀ item ∈ list, item.DistinctKeys)
    {plan : List PlannedQuery} :
    list.mapM ofItem = .ok plan ↔ List.Forall₂ Planned list plan := by
  rw [mapM_eq_ok_iff]
  constructor
  · intro hplan
    exact ((List.forall₂_and_left _ _).mpr ⟨h, hplan⟩).imp fun _ _ ⟨hitem, hquery⟩ =>
      (ofItem_eq_ok_iff hitem).mp hquery
  · intro hplan
    exact ((List.forall₂_and_left _ _).mpr ⟨h, hplan⟩).imp fun _ _ ⟨hitem, hquery⟩ =>
      (ofItem_eq_ok_iff hitem).mpr hquery

/-- A list has the error of its first faulty item. -/
theorem mapM_ofItem_eq_error_iff {list : List Json} (h : ∀ item ∈ list, item.DistinctKeys)
    {e : Error} :
    list.mapM ofItem = .error e ↔
      ∃ before item after, list = before ++ item :: after ∧
        (∀ earlier ∈ before, ∃ query, Planned earlier query) ∧ Faulty item e := by
  rw [mapM_eq_error_iff]
  refine exists_congr fun before => exists_congr fun item => exists_congr fun after =>
    and_congr_right fun hlist => ?_
  subst hlist
  refine and_congr (forall₂_congr fun earlier hearlier => exists_congr fun query => ?_) ?_
  · exact ofItem_eq_ok_iff (h earlier (by simp [hearlier]))
  · exact ofItem_eq_error_iff (h item (by simp))

/-- **The requests with a plan, and the fault of every other request.** A request has a plan exactly
where it lists items that are all planned, and the plan has the query of each. Otherwise its error
is that it lists no items, or the fault of the first item that is not planned. -/
theorem ofRequest_iff {request : Json} (h : request.DistinctKeys) :
    (∀ plan, ofRequest request = .ok plan ↔
      ∃ list, HasItems request list ∧ List.Forall₂ Planned list plan) ∧
    (∀ e, ofRequest request = .error e ↔
      (e = .missingCriterias ∧ ∀ list, ¬ HasItems request list) ∨
      ∃ before item after, HasItems request (before ++ item :: after) ∧
        (∀ earlier ∈ before, ∃ query, Planned earlier query) ∧ Faulty item e) := by
  unfold ofRequest
  -- The list is gone through after it is found, so every fault of an item is behind that of the
  -- list.
  constructor
  · intro plan
    rw [bind_eq_ok_iff]
    refine exists_congr fun list => ?_
    rw [items_eq_ok_iff h]
    exact and_congr_right fun hlist => mapM_ofItem_eq_ok_iff (distinctKeys_of_hasItems h hlist)
  · intro e
    rw [bind_eq_error_iff, items_eq_error_iff h]
    refine or_congr_right ?_
    simp only [items_eq_ok_iff h]
    constructor
    · rintro ⟨list, hlist, herror⟩
      obtain ⟨before, item, after, rfl, hbefore, hitem⟩ :=
        (mapM_ofItem_eq_error_iff (distinctKeys_of_hasItems h hlist)).mp herror
      exact ⟨before, item, after, hlist, hbefore, hitem⟩
    · rintro ⟨before, item, after, hlist, hbefore, hitem⟩
      exact ⟨_, hlist, (mapM_ofItem_eq_error_iff (distinctKeys_of_hasItems h hlist)).mpr
        ⟨before, item, after, rfl, hbefore, hitem⟩⟩

/-- An item whose keys stand in another order than its parameters. -/
def milkBuyers : Json := .object [("minTimes", .ofInt64 2), ("productName", .string "Milk")]

/-- A request for the buyers of milk, and for as many bad customers as a text says. -/
def textualLimit : Json :=
  .object [("criterias", .array [milkBuyers, .object [("badCustomers", .string "3")]])]

/-- The first item is planned, and the second has the wrong type. -/
theorem ofRequest_textualLimit :
    textualLimit.DistinctKeys ∧
      ofRequest textualLimit = .error (.wrongFieldType "badCustomers" .number) := by
  have hdistinct : textualLimit.DistinctKeys := Json.collapse_eq_self_iff.mp rfl
  have hplanned : Planned milkBuyers
      ⟨milkBuyers, .productFrequency, ⟨.productFrequency, [.text "Milk", .int 2]⟩⟩ := by
    refine .object .productFrequency (fun key => ?_) (.cons (.text ?_) (.cons (.int ?_) .nil))
    · simp [Json.keysOf, or_comm]
    · simp
    · simp
  have hfaulty : Faulty (.object [("badCustomers", .string "3")])
      (.wrongFieldType "badCustomers" .number) := by
    refine @Faulty.wrongType _ _ _ [] [] _ _ .badCustomers (fun key => Iff.rfl) (by simp) ?_
    rintro param (_ | hmem)
    simp [Json.ofInt64] at hmem
  refine ⟨hdistinct, ((ofRequest_iff hdistinct).2 _).mpr (Or.inr ?_)⟩
  refine ⟨[milkBuyers], _, [], ⟨by simp, _, rfl, List.mem_cons_self⟩, ?_, hfaulty⟩
  exact fun earlier h => List.mem_singleton.mp h ▸ ⟨_, hplanned⟩

end ShopQuery.Plan
