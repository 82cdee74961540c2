import ShopQuery.Files.Documents
import ShopQuery.Proofs.Json.Place
import ShopQuery.Proofs.Json.Range
import ShopQuery.Proofs.Request.Relisting

/-!
# Numbers in requests

A number literal that a request has as the value of a key is bound exactly or not at all
(`number_bound_exactly`). As the integer that it is it becomes a parameter, if it fits 64 bits.
Every other literal leaves the whole request without a plan: the value has the wrong type, or the
text is refused because the literal is too great for a floating-point number.

## How the proof goes

A `Place` is a request as it is written, with the literal left out: white space, escapes, repeated
keys and whatever else a text may have. All that it stands for is a `Slot`, a value with one number
left out (`Place.exists_slot`); from there on the text plays no part any more. Whether a slot has a
plan depends on the number alone, if some integer gives it one (`Slot.exists_open`). With an integer
in it the request has a plan that binds the integer (`Slot.Open.exists_bindsAt`), and with any other
value it is refused for the type of it (`Slot.Open.ofRequest_fill_of_ne`). What number a literal
stands for is looked up where literals are read.

## Why the conditions are there

* `Place.Valid` asks that some integer gives the request a plan. Without it the request may be
  refused for something else, before the literal is looked at.
* The key of the list is asked to be that of the criteria, so that the literal is in an item and not
  somewhere in the request where no one looks at it.
* Between `2 ^ 1024 - 2 ^ 973` and `2 ^ 1024 + 2 ^ 973` a literal may be refused as out of range or
  be of the wrong type. The significand is rounded to a floating-point number, and so is its power
  of ten, and the product is rounded again; which way this comes out is not settled by the magnitude
  (`number_refused_in_range`).
* An exponent that does not fit 32 bits is refused without being looked at further, unless the
  significand is zero, or the exponent is negative: then the literal is read as zero.
-/

namespace ShopQuery.Plan

open Json (keysOf ofInt64)

/-! ## 1. One value of a request -/

/-- A request with the value of one key of one item left out. -/
structure Slot where
  requestBefore : List (String × Json)
  requestAfter : List (String × Json)
  before : List Json
  after : List Json
  itemBefore : List (String × Json)
  itemAfter : List (String × Json)
  key : String

namespace Slot

variable (slot : Slot)

def members (value : Json) : List (String × Json) :=
  slot.itemBefore ++ (slot.key, value) :: slot.itemAfter

def items (value : Json) : List Json :=
  slot.before ++ .object (slot.members value) :: slot.after

/-- The request with a value in the slot. -/
def fill (value : Json) : Json :=
  .object (slot.requestBefore ++ ("criterias", .array (slot.items value)) :: slot.requestAfter)

theorem hasItems (value : Json) : HasItems (slot.fill value) (slot.items value) :=
  ⟨by simp [items], _, rfl, by simp⟩

variable {slot} {value other : Json}

theorem nodup_members (h : (slot.fill value).DistinctKeys) :
    (keysOf (slot.members value)).Nodup := by
  have hitem := distinctKeys_of_hasItems h (slot.hasItems value) (.object (slot.members value))
    (by simp [items])
  exact (Json.distinctKeys_object_iff.mp hitem).1

/-- Only the members of the key of the slot depend on the value. -/
theorem mem_members_of_ne {key : String} (h : key ≠ slot.key) {v : Json}
    (hmem : (key, v) ∈ slot.members value) (other : Json) : (key, v) ∈ slot.members other := by
  simpa [members, h] using hmem

/-- The key of the slot has the value in the slot and no other. -/
theorem mem_members_iff (h : (keysOf (slot.members value)).Nodup) {v : Json} :
    (slot.key, v) ∈ slot.members value ↔ v = value := by
  have hmem : (slot.key, value) ∈ slot.members value := by simp [members]
  constructor
  · intro hv
    have hlookup := (Json.lookup_eq_some_iff h).mpr hv
    rw [(Json.lookup_eq_some_iff h).mpr hmem] at hlookup
    exact (Option.some.inj hlookup).symm
  · rintro rfl
    exact hmem

theorem keysOf_members : keysOf (slot.members value) = keysOf (slot.members other) := by
  simp [members, keysOf]

theorem binds_of_ne {field : String × FieldType} {param : Param} (h : field.1 ≠ slot.key)
    (hbinds : Binds (slot.members value) field param) (other : Json) :
    Binds (slot.members other) field param := by
  cases hbinds with
  | text hmem => exact .text (mem_members_of_ne h hmem other)
  | int hmem => exact .int (mem_members_of_ne h hmem other)

/-! ## 2. The item with the slot -/

/-- The item has a query of a kind, but for the value in the slot. -/
structure Suits (slot : Slot) (kind : CriteriaKind) : Prop where
  keys : ∀ value, HasKeys (slot.members value) kind.fields
  field : (slot.key, .number) ∈ kind.fields
  others : ∀ field ∈ kind.fields, field.1 ≠ slot.key →
    ∀ value, ∃ param, Binds (slot.members value) field param

/-- What has a query with some integer in the slot has one but for that. -/
theorem exists_suits {n : Int64} {query : PlannedQuery}
    (hnodup : (keysOf (slot.members (ofInt64 n))).Nodup)
    (h : Planned (.object (slot.members (ofInt64 n))) query) : ∃ kind, slot.Suits kind := by
  cases h with
  | @object _ kind _ _ _ hshape hkeys hvalues =>
    obtain ⟨rfl, -⟩ := shape_iff.mp hshape
    have hkey : slot.key ∈ kind.fields.map Prod.fst :=
      (hkeys slot.key).mp (by simp [members, keysOf])
    -- The key of the slot is that of a field; it is one for numbers, as an integer was bound to it.
    obtain ⟨⟨_, type⟩, hfield, rfl⟩ := List.mem_map.mp hkey
    refine ⟨kind, ?_, ?_, fun field hmem hne value => ?_⟩
    · intro value key
      rw [keysOf_members]
      exact hkeys key
    · obtain ⟨param, -, hbinds⟩ := exists_of_forall₂_of_mem hvalues hfield
      cases hbinds with
      | text hmem => cases (mem_members_iff hnodup).mp hmem
      | int => exact hfield
    · obtain ⟨param, -, hbinds⟩ := exists_of_forall₂_of_mem hvalues hmem
      exact ⟨param, binds_of_ne hne hbinds value⟩

namespace Suits

variable {kind : CriteriaKind} (h : slot.Suits kind)
include h

/-- The field of the slot is the only one with its key. -/
theorem field_eq {field : String × FieldType} (hmem : field ∈ kind.fields)
    (hkey : field.1 = slot.key) : field = (slot.key, .number) :=
  List.inj_on_of_nodup_map (nodup_fields kind) hmem h.field hkey

/-- With an integer in the slot the item has a query. -/
theorem exists_planned (n : Int64) :
    ∃ query, Planned (.object (slot.members (ofInt64 n))) query := by
  have hvalues : ∀ field ∈ kind.fields, ∃ param, Binds (slot.members (ofInt64 n)) field param := by
    intro field hmem
    by_cases hkey : field.1 = slot.key
    · rw [h.field_eq hmem hkey]
      exact ⟨.int n, .int (by simp [members])⟩
    · exact h.others field hmem hkey _
  obtain ⟨params, hparams⟩ := exists_forall₂_iff.mpr hvalues
  exact ⟨_, .object (shape_iff.mpr ⟨rfl, rfl⟩) (h.keys _) hparams⟩

/-- With any other value in the slot the type of that is what is wrong with the item. -/
theorem faulty (hnodup : (keysOf (slot.members value)).Nodup) (hvalue : ∀ n, value ≠ ofInt64 n) :
    Faulty (.object (slot.members value)) (.wrongFieldType slot.key .number) := by
  obtain ⟨before, after, hfields⟩ := List.append_of_mem h.field
  have hkeys := h.keys value
  rw [hfields] at hkeys
  refine .wrongType (shape_iff.mpr ⟨hfields.symm, rfl⟩) hkeys (fun field hmem => ?_) ?_
  · have hne : field.1 ≠ slot.key := by
      have hfieldsNodup := nodup_fields kind
      rw [hfields, List.map_append, List.map_cons, List.nodup_append] at hfieldsNodup
      exact hfieldsNodup.2.2 _ (List.mem_map_of_mem hmem) _ List.mem_cons_self
    exact h.others field (by simp [hfields, hmem]) hne value
  · rintro param (_ | hmem)
    exact hvalue _ ((mem_members_iff hnodup).mp hmem).symm

end Suits

/-! ## 3. The request with the slot -/

theorem ofRequest_fill_eq_ok_iff (h : (slot.fill value).DistinctKeys) {plan : List PlannedQuery} :
    ofRequest (slot.fill value) = .ok plan ↔ List.Forall₂ Planned (slot.items value) plan := by
  rw [(ofRequest_iff h).1]
  constructor
  · rintro ⟨list, hlist, hplan⟩
    have hok := (items_eq_ok_iff h).mpr hlist
    rw [(items_eq_ok_iff h).mpr (slot.hasItems value)] at hok
    exact Except.ok.inj hok ▸ hplan
  · exact fun hplan => ⟨_, slot.hasItems value, hplan⟩

end Slot

/-- The query at an index of a plan binds an integer to a key. -/
def BindsAt (plan : List PlannedQuery) (index : Nat) (key : String) (n : Int64) : Prop :=
  ∃ query, plan[index]? = some query ∧
    ((key, FieldType.number), Param.int n) ∈ query.kind.fields.zip query.statement.params

/-- What a query binds to a key is the value of the key. -/
theorem mem_of_planned {members : List (String × Json)} {query : PlannedQuery} {key : String}
    {n : Int64} (h : Planned (.object members) query)
    (hbound : ((key, FieldType.number), Param.int n) ∈
      query.kind.fields.zip query.statement.params) : (key, ofInt64 n) ∈ members := by
  cases h with
  | object hshape _ hvalues =>
    obtain ⟨rfl, -⟩ := shape_iff.mp hshape
    cases List.forall₂_zip hvalues hbound with
    | int hmem => exact hmem

namespace Slot

variable {slot : Slot} {value : Json}

theorem exists_planned_at {plan : List PlannedQuery}
    (h : List.Forall₂ Planned (slot.items value) plan) :
    ∃ query, plan[slot.before.length]? = some query ∧
      Planned (.object (slot.members value)) query := by
  have hitem : slot.before.length < (slot.items value).length := by simp [items]
  have hplan : slot.before.length < plan.length := h.length_eq ▸ hitem
  refine ⟨plan[slot.before.length], List.getElem?_eq_getElem hplan, ?_⟩
  simpa [items] using h.get hitem hplan

/-- An integer that is bound is the value in the slot. -/
theorem eq_of_bindsAt (hdistinct : (slot.fill value).DistinctKeys) {plan : List PlannedQuery}
    (hplan : ofRequest (slot.fill value) = .ok plan) {n : Int64}
    (hbound : BindsAt plan slot.before.length slot.key n) : value = ofInt64 n := by
  obtain ⟨query, hquery, hplanned⟩ :=
    exists_planned_at ((ofRequest_fill_eq_ok_iff hdistinct).mp hplan)
  obtain ⟨bound, hbound, hzip⟩ := hbound
  rw [hquery] at hbound
  obtain rfl := Option.some.inj hbound
  exact ((mem_members_iff (nodup_members hdistinct)).mp (mem_of_planned hplanned hzip)).symm

/-- The request has a plan but for the value in the slot. -/
structure Open (slot : Slot) (kind : CriteriaKind) : Prop where
  suits : slot.Suits kind
  before_planned : ∀ item ∈ slot.before, ∃ query, Planned item query
  after_planned : ∀ item ∈ slot.after, ∃ query, Planned item query

/-- A request that has a plan with some integer in the slot has one but for that. -/
theorem exists_open {n : Int64} {plan : List PlannedQuery}
    (hdistinct : (slot.fill (ofInt64 n)).DistinctKeys)
    (hplan : ofRequest (slot.fill (ofInt64 n)) = .ok plan) : ∃ kind, slot.Open kind := by
  have hqueries := (ofRequest_fill_eq_ok_iff hdistinct).mp hplan
  have hall := exists_forall₂_iff.mp ⟨plan, hqueries⟩
  obtain ⟨query, -, hplanned⟩ := exists_planned_at hqueries
  obtain ⟨kind, hsuits⟩ := exists_suits (nodup_members hdistinct) hplanned
  exact ⟨kind, hsuits, fun item hitem => hall item (by simp [items, hitem]),
    fun item hitem => hall item (by simp [items, hitem])⟩

namespace Open

variable {kind : CriteriaKind} (h : slot.Open kind)
include h

/-- With an integer in the slot the request has a plan, and the integer is bound. -/
theorem exists_bindsAt {n : Int64} (hdistinct : (slot.fill (ofInt64 n)).DistinctKeys) :
    ∃ plan, ofRequest (slot.fill (ofInt64 n)) = .ok plan ∧
      BindsAt plan slot.before.length slot.key n := by
  have hitems : ∀ item ∈ slot.items (ofInt64 n), ∃ query, Planned item query := by
    intro item hitem
    rcases List.mem_append.mp hitem with hitem | hitem
    · exact h.before_planned item hitem
    rcases List.mem_cons.mp hitem with rfl | hitem
    · exact h.suits.exists_planned n
    · exact h.after_planned item hitem
  obtain ⟨plan, hqueries⟩ := exists_forall₂_iff.mpr hitems
  obtain ⟨query, hquery, hplanned⟩ := exists_planned_at hqueries
  refine ⟨plan, (ofRequest_fill_eq_ok_iff hdistinct).mpr hqueries, query, hquery, ?_⟩
  -- The query at the index is of the kind that the slot suits, since no other kind has its keys.
  cases hplanned with
  | object hshape hkeys hvalues =>
    obtain ⟨rfl, -⟩ := shape_iff.mp hshape
    obtain rfl := kind_unique (h.suits.keys _) hkeys
    obtain ⟨param, hzip, hbinds⟩ := exists_mem_zip_of_forall₂ hvalues h.suits.field
    cases hbinds with
    | int hmem =>
      rw [mem_members_iff (nodup_members hdistinct), Json.ofInt64_inj] at hmem
      exact hmem ▸ hzip

/-- With any other value in the slot the request has no plan. -/
theorem ofRequest_fill_of_ne (hdistinct : (slot.fill value).DistinctKeys)
    (hvalue : ∀ n, value ≠ ofInt64 n) :
    ofRequest (slot.fill value) = .error (.wrongFieldType slot.key .number) :=
  ((ofRequest_iff hdistinct).2 _).mpr (Or.inr ⟨slot.before, _, slot.after, slot.hasItems value,
    h.before_planned, h.suits.faulty (nodup_members hdistinct) hvalue⟩)

end Open

end Slot

/-! ## 4. Requests as they are written -/

/-- A request as it is written, with a number left out: the value of a key of one of its items. -/
structure Place where
  left : Json.Blank
  right : Json.Blank
  request : Json.MemberPlace
  list : Json.ItemPlace
  item : Json.MemberPlace
  request_key : request.key.quoted.value = "criterias"

namespace Place

variable (place : Place)

def key : String := place.item.key.quoted.value

def index : Nat := place.list.before.length

/-- The request with a number in the place. -/
def layout (L : Json.Literal) : Json.Layout :=
  .spaced place.left
    (place.request.fill (place.list.fill (place.item.fill (.number L)))) place.right

def text (L : Json.Literal) : String := String.ofList (place.layout L).text

/-- The request has a plan with some integer in the place. -/
def Valid : Prop :=
  ∃ (n : Int64) (request : Json) (plan : List PlannedQuery),
    Json.read (place.text (.ofInt n.toInt)) = .ok request ∧ ofRequest request = .ok plan

variable {place}

theorem toOption_read_text (L : Json.Literal) :
    (Json.read (place.text L)).toOption = (place.layout L).value? Json.maxDepth :=
  Json.toOption_read String.toList_ofList

/-- A request stands for one with the number in a slot, whatever the literal is. -/
theorem exists_slot (h : place.Valid) :
    ∃ slot : Slot, slot.key = place.key ∧ slot.before.length = place.index ∧
      (∃ kind, slot.Open kind) ∧ ∀ L : Json.Literal,
        (Json.read (place.text L)).toOption =
          L.number?.map fun number => slot.fill (.number number) := by
  obtain ⟨n, request, plan, hread, hplan⟩ := h
  have hlayout : ∀ L, (Json.read (place.text L)).toOption =
      (place.request.fill (place.list.fill (place.item.fill (.number L)))).value? (126 + 1) :=
    toOption_read_text
  have hvalue := hlayout (.ofInt n.toInt)
  rw [hread] at hvalue
  -- From the outside in: the request has a value at its key, that is a list with a value at its
  -- index, and that is an object with a value at its key.
  obtain ⟨requestBefore, requestAfter, hrequest⟩ :=
    Json.MemberPlace.exists_value?_fill hvalue.symm
  rw [hrequest] at hvalue
  obtain ⟨_, hlistValue, -⟩ := Option.map_eq_some_iff.mp hvalue.symm
  obtain ⟨before, after, hlength, hlist⟩ := Json.ItemPlace.exists_value?_fill hlistValue
  rw [hlist] at hlistValue
  obtain ⟨_, hitemValue, -⟩ := Option.map_eq_some_iff.mp hlistValue
  obtain ⟨itemBefore, itemAfter, hitem⟩ := Json.MemberPlace.exists_value?_fill hitemValue
  let slot : Slot :=
    ⟨requestBefore, requestAfter, before, after, itemBefore, itemAfter, place.key⟩
  have hfill : ∀ L : Json.Literal, (Json.read (place.text L)).toOption =
      L.number?.map fun number => slot.fill (.number number) := fun L => by
    rw [hlayout, hrequest, hlist, hitem, Json.Layout.value?_number, place.request_key]
    cases L.number? <;> rfl
  refine ⟨slot, rfl, hlength, ?_, hfill⟩
  -- The integer that is known to have a plan shows that the slot is open.
  have hn := hfill (.ofInt n.toInt)
  rw [hread, Json.Literal.number?_ofInt (Json.fitsNumber_toInt n)] at hn
  obtain rfl : request = slot.fill (ofInt64 n) := Option.some.inj hn
  exact Slot.exists_open (Json.distinctKeys_of_read hread) hplan

end Place

/-! ## 5. Bound exactly or not at all -/

section Reading

variable {place : Place} {files : Files} {path : String} {L : Json.Literal}

/-- Reading a request and planning it goes on where its text is JSON, and fails there otherwise. -/
theorem readJson_bind_eq (hfile : files.readText path = .ok (place.text L)) :
    files.readJson path >>= ofRequest =
      ((Json.read (place.text L)).mapError fun fault =>
        Error.parse s!"Invalid JSON in {path}: {fault.message}") >>= ofRequest := by
  unfold Files.readJson
  rw [hfile]
  rfl

/-- **A requested number is bound exactly or not at all.** The literal in the place is bound as an
integer exactly where it is that integer, written without fraction and exponent and not as minus
zero. With any other literal the request has no plan: the value has the wrong type, unless the
literal is no zero and too great to be read, in its value or in its exponent. Which of the two it is
near the greatest floating-point number is left open, as the significand of a literal and its power
of ten are rounded before they are multiplied. -/
theorem number_bound_exactly (h : place.Valid)
    (hfile : files.readText path = .ok (place.text L)) :
    (∀ n : Int64, (∃ plan, files.readJson path >>= ofRequest = .ok plan ∧
      BindsAt plan place.index place.key n) ↔ L.IsInteger n.toInt) ∧
    ((∀ n : Int64, ¬ L.IsInteger n.toInt) →
      (files.readJson path >>= ofRequest = .error (.wrongFieldType place.key .number) ∧
        (L.magnitude < 2 ^ 1024 + 2 ^ 973 ∨ L.exponentValue < -Json.maxExponent)) ∨
      ∃ detail, files.readJson path >>= ofRequest = .error (.parse detail) ∧
        (2 ^ 1024 - 2 ^ 973 ≤ L.magnitude ∨
          ((Json.maxExponent : Int) < L.exponentValue ∧ L.mantissa ≠ 0))) := by
  obtain ⟨slot, hkey, hindex, ⟨kind, hopen⟩, hread⟩ := place.exists_slot h
  rw [readJson_bind_eq hfile, ← hkey, ← hindex]
  have hint : ∀ n : Int64, L.number? = some (.integer n.toInt) ↔ L.IsInteger n.toInt := fun n => by
    rw [L.number?_eq_integer_iff, and_iff_left (Json.fitsNumber_toInt n)]
  -- A literal without a number leaves no request to plan; with one it is put into the slot.
  cases hnumber : L.number? with
  | none =>
    obtain ⟨fault, hfault⟩ := toOption_eq_none_iff.mp ((hread L).trans (by rw [hnumber]; rfl))
    rw [hfault]
    refine ⟨fun n => ⟨?_, fun hn => ?_⟩, fun _ =>
      Or.inr ⟨_, rfl, L.le_magnitude_of_number?_eq_none hnumber⟩⟩
    · rintro ⟨plan, hplan, -⟩
      cases hplan
    · rw [← hint, hnumber] at hn
      cases hn
  | some number =>
    have hok : Json.read (place.text L) = .ok (slot.fill (.number number)) :=
      toOption_eq_some_iff.mp ((hread L).trans (by rw [hnumber]; rfl))
    have hdistinct := Json.distinctKeys_of_read hok
    have hvalue : ∀ n : Int64, Json.number number = ofInt64 n ↔ L.IsInteger n.toInt := fun n => by
      rw [← hint, hnumber, ofInt64, Json.number.injEq, Option.some.injEq]
    rw [hok]
    refine ⟨fun n => ⟨?_, fun hn => ?_⟩, fun hnone => Or.inl ⟨?_, ?_⟩⟩
    · rintro ⟨plan, hplan, hbound⟩
      exact (hvalue n).mp (Slot.eq_of_bindsAt hdistinct hplan hbound)
    · have hbound := (hvalue n).mpr hn
      rw [hbound] at hdistinct ⊢
      exact hopen.exists_bindsAt hdistinct
    · exact hopen.ofRequest_fill_of_ne hdistinct fun n hn => hnone n ((hvalue n).mp hn)
    · exact L.magnitude_lt_of_number?_eq_some hnumber

end Reading

/-- The bad customers behind the Smiths, their number left out. -/
def limitPlace : Place where
  left := .none
  right := .none
  request := ⟨[], Json.Layout.compactKey "criterias", .none, .none, [], List.not_mem_nil⟩
  list := ⟨[.object .none [(Json.Layout.compactKey "lastName",
    .string (Json.Layout.quoted "Smith"))]], .none, .none, []⟩
  item := ⟨[], Json.Layout.compactKey "badCustomers", .none, .none, [], List.not_mem_nil⟩
  request_key := rfl

theorem valid_limitPlace : limitPlace.Valid := by
  refine ⟨0, .object [("criterias", .array [.object [("lastName", .string "Smith")],
    .object [("badCustomers", ofInt64 0)]])], _, ?_, rfl⟩
  rw [← toOption_eq_some_iff, Place.toOption_read_text]
  rfl

/-- A file with that request and a number in it. -/
def limitFile (L : Json.Literal) : Files where
  workingDirectory := []
  entries := [(["request"], .file (Utf8.encode (limitPlace.text L)))]

def greatest : Json.Literal := .ofInt Int64.maxValue.toInt

/-- It is bound as it is. -/
theorem number_bound_exactly_maxValue :
    limitPlace.Valid ∧ (limitFile greatest).readText "request" = .ok (limitPlace.text greatest) ∧
      ∃ plan, (limitFile greatest).readJson "request" >>= ofRequest = .ok plan ∧
        BindsAt plan 1 "badCustomers" Int64.maxValue := by
  have hfile : (limitFile greatest).readText "request" = .ok (limitPlace.text greatest) := by
    decide +kernel
  refine ⟨valid_limitPlace, hfile, ((number_bound_exactly valid_limitPlace hfile).1 _).mpr ?_⟩
  exact Json.Literal.isInteger_ofInt (Json.fitsNumber_toInt _)

/-- A little less than the greatest floating-point number. -/
def nearGreatest : Json.Literal where
  negative := false
  whole := ['1']
  fraction := some (Nat.toDigits 10 797693134862315700)
  exponent := some ⟨false, .none, ['3', '0', '8'], by decide⟩
  whole_isDigits := by decide
  whole_head := by decide
  fraction_isDigits := by
    rintro ds ⟨⟩
    exact isDigits_toDigits _

/-- It is refused all the same: its significand and its power of ten are both rounded up. -/
theorem number_refused_in_range :
    limitPlace.Valid ∧
      (limitFile nearGreatest).readText "request" = .ok (limitPlace.text nearGreatest) ∧
      (limitFile nearGreatest).readJson "request" >>= ofRequest =
        .error (.parse "Invalid JSON in request: number out of range at line 1 column 75") ∧
      nearGreatest.magnitude < (2 ^ 53 - 1) * 2 ^ 971 := by
  refine ⟨valid_limitPlace, by decide +kernel, ?_, ?_⟩
  · have hlength : ((limitFile nearGreatest).readJson "request" >>= ofRequest).map List.length =
        .error (.parse "Invalid JSON in request: number out of range at line 1 column 75") := by
      decide +kernel
    exact map_eq_error_iff.mp hlength
  · have hmantissa : nearGreatest.mantissa = 1797693134862315700 := by decide +kernel
    have hexponent : nearGreatest.exponentValue - nearGreatest.fractionDigits.length =
        (290 : Nat) := by decide +kernel
    have hlt : 1797693134862315700 * tenTo 290 < (twoTo 53 - 1) * twoTo 971 := by decide +kernel
    have hcast : ((1797693134862315700 * tenTo 290 : Nat) : ℚ) <
        ((twoTo 53 - 1) * twoTo 971 : Nat) := by exact_mod_cast hlt
    rw [Nat.cast_mul, Nat.cast_mul, Nat.cast_sub (twoTo_pos 53), Json.cast_tenTo, cast_twoTo,
      cast_twoTo, Nat.cast_one] at hcast
    rwa [Json.Literal.magnitude, hmantissa, hexponent, zpow_natCast]

end ShopQuery.Plan
