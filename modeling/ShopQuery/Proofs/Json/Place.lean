import ShopQuery.Proofs.Json.Layout
import ShopQuery.Proofs.Json.Members

/-!
# Places in written values

A place is an array or an object as it is written, with one value left out. What such a text stands
for depends on the value in the place only through what that value stands for, and the rest of it
stays the same (`ItemPlace.exists_value?_fill`, `MemberPlace.exists_value?_fill`).

## How the proof goes

What a layout stands for is found part by part, and lists of parts are found from their pieces
(`evalItems_append`, `evalMembers_append`). So the two pieces beside the place are values on their
own, whatever is put between them. They are not known beforehand, as they may be no values at all: a
number in them may be out of range, or they may be nested too deeply. The hypothesis is that the
whole is a value for one layout in the place; then both pieces are, and every other layout is put
between the same values.

An object is harder than an array, because it keeps each key once. The value that counts is the last
one of its key, but it stands where the key stood first. So the place has to have the last value of
its key (`MemberPlace.last`), or else it would not be seen; what stands in front of the key after
that comes from `exists_collapseMembers`, and it does not depend on the value in the place.

The depth is one greater around the place than in it, as every array and object is one level.
-/

namespace ShopQuery.Json

/-! ## 1. Places -/

/-- An array with one item left out, and the white space around that. -/
structure ItemPlace where
  before : List Layout
  left : Blank
  right : Blank
  after : List Layout

/-- An object with the value of one key left out, and the white space around that. It is the last
value of its key. -/
structure MemberPlace where
  before : List (Key × Layout)
  key : Key
  left : Blank
  right : Blank
  after : List (Key × Layout)
  last : key.quoted.value ∉ after.map fun m => m.1.quoted.value

def ItemPlace.fill (place : ItemPlace) (layout : Layout) : Layout :=
  .array .none (place.before ++ .spaced place.left layout place.right :: place.after)

def MemberPlace.fill (place : MemberPlace) (layout : Layout) : Layout :=
  .object .none (place.before ++ (place.key, .spaced place.left layout place.right) :: place.after)

/-! ## 2. What stands in a place -/

namespace Layout

/-- What a layout stands for, with every key once. -/
def value? (depth : Nat) (layout : Layout) : Option Json := (layout.eval depth).map collapse

/-- A number stands for itself, as it has no keys. -/
theorem value?_number (depth : Nat) (literal : Literal) :
    (Layout.number literal).value? depth = literal.number?.map .number := by
  rw [value?, eval, Option.map_map]
  rfl

/-- Items in two pieces are the items of both, if both pieces have them. -/
theorem evalItems_append (depth : Nat) (items more : List Layout) :
    evalItems depth (items ++ more) =
      (evalItems depth items).bind fun values => (evalItems depth more).map (values ++ ·) := by
  induction items with
  | nil => simp [evalItems]
  | cons item items ih =>
    rw [List.cons_append, evalItems, evalItems, ih]
    cases eval depth item <;> cases evalItems depth items <;> cases evalItems depth more <;> rfl

/-- Members in two pieces are the members of both, if both pieces have them. -/
theorem evalMembers_append (depth : Nat) (members more : List (Key × Layout)) :
    evalMembers depth (members ++ more) =
      (evalMembers depth members).bind fun values =>
        (evalMembers depth more).map (values ++ ·) := by
  induction members with
  | nil => simp [evalMembers]
  | cons head members ih =>
    obtain ⟨key, value⟩ := head
    rw [List.cons_append, evalMembers, evalMembers, ih]
    cases eval depth value <;> cases evalMembers depth members <;>
      cases evalMembers depth more <;> rfl

/-- There are as many items as layouts of them. -/
theorem length_of_evalItems {depth : Nat} {items : List Layout} {values : List Json}
    (h : evalItems depth items = some values) : values.length = items.length := by
  induction items generalizing values with
  | nil =>
    cases h
    rfl
  | cons item items ih =>
    rw [evalItems] at h
    obtain ⟨value, -, h⟩ := Option.bind_eq_some_iff.mp h
    obtain ⟨rest, hrest, rfl⟩ := Option.map_eq_some_iff.mp h
    rw [List.length_cons, List.length_cons, ih hrest]

/-- The keys are those that are written. -/
theorem keysOf_of_evalMembers {depth : Nat} {members : List (Key × Layout)}
    {values : List (String × Json)} (h : evalMembers depth members = some values) :
    keysOf values = members.map fun m => m.1.quoted.value := by
  induction members generalizing values with
  | nil =>
    cases h
    rfl
  | cons head members ih =>
    obtain ⟨key, value⟩ := head
    rw [evalMembers] at h
    obtain ⟨v, -, h⟩ := Option.bind_eq_some_iff.mp h
    obtain ⟨rest, hrest, rfl⟩ := Option.map_eq_some_iff.mp h
    rw [List.map_cons, ← ih hrest]
    rfl

end Layout

section Filling

variable {depth : Nat} {layout : Layout} {value : Json}

/-- **An array differs in the item in the place only.** -/
theorem ItemPlace.exists_value?_fill {place : ItemPlace}
    (h : (place.fill layout).value? (depth + 1) = some value) :
    ∃ before after, before.length = place.before.length ∧ ∀ other : Layout,
      (place.fill other).value? (depth + 1) =
        (other.value? depth).map fun v => .array (before ++ v :: after) := by
  have hfill : ∀ other, (place.fill other).eval (depth + 1) =
      ((Layout.evalItems depth place.before).bind fun before =>
        ((other.eval depth).bind fun v =>
          (Layout.evalItems depth place.after).map fun after => v :: after).map
            (before ++ ·)).map Json.array := by
    intro other
    rw [fill, Layout.eval, Layout.evalItems_append, Layout.evalItems, Layout.eval]
  cases hbefore : Layout.evalItems depth place.before with
  | none => simp [Layout.value?, hfill, hbefore] at h
  | some before =>
    cases hafter : Layout.evalItems depth place.after with
    | none => simp [Layout.value?, hfill, hbefore, hafter] at h
    | some after =>
      refine ⟨before.map collapse, after.map collapse, ?_, fun other => ?_⟩
      · rw [List.length_map, Layout.length_of_evalItems hbefore]
      · rw [Layout.value?, hfill, hbefore, hafter, Layout.value?]
        cases other.eval depth with
        | none => rfl
        | some v => simp [collapse, collapseItems_eq_map]

/-- **An object differs in the value in the place only.** -/
theorem MemberPlace.exists_value?_fill {place : MemberPlace}
    (h : (place.fill layout).value? (depth + 1) = some value) :
    ∃ before after, ∀ other : Layout, (place.fill other).value? (depth + 1) =
      (other.value? depth).map fun v =>
        .object (before ++ (place.key.quoted.value, v) :: after) := by
  have hfill : ∀ other, (place.fill other).eval (depth + 1) =
      ((Layout.evalMembers depth place.before).bind fun before =>
        ((other.eval depth).bind fun v =>
          (Layout.evalMembers depth place.after).map fun after =>
            (place.key.quoted.value, v) :: after).map (before ++ ·)).map Json.object := by
    intro other
    rw [fill, Layout.eval, Layout.evalMembers_append, Layout.evalMembers, Layout.eval]
  cases hbefore : Layout.evalMembers depth place.before with
  | none => simp [Layout.value?, hfill, hbefore] at h
  | some before =>
    cases hafter : Layout.evalMembers depth place.after with
    | none => simp [Layout.value?, hfill, hbefore, hafter] at h
    | some after =>
      have hlast : place.key.quoted.value ∉ keysOf (collapseValues after) := by
        rw [keysOf_collapseValues, Layout.keysOf_of_evalMembers hafter]
        exact place.last
      obtain ⟨before', after', hcollapse⟩ := exists_collapseMembers hlast (collapseValues before)
      refine ⟨before', after', fun other => ?_⟩
      rw [Layout.value?, hfill, hbefore, hafter, Layout.value?]
      cases other.eval depth with
      | none => rfl
      | some v =>
        simp only [collapseValues_eq_map] at hcollapse
        simp [collapse, collapseValues_eq_map, hcollapse]

end Filling

end ShopQuery.Json
