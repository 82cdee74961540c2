import ShopQuery.Proofs.FirstFailure
import ShopQuery.Proofs.Json.Layout
import ShopQuery.Proofs.Json.Members
import ShopQuery.Proofs.Json.Numeral
import ShopQuery.Proofs.Json.Strings

/-!
# Written values read back

A value whose numbers are integers of 64 bits is read as itself from its compact form, as long as no
more arrays and objects are open at a time than a reader allows (`readTree_print_append`). For the
compact form is the text of a layout that stands for the value (`exists_isCompact`).

## How the proof goes

That layouts are read is known already (`toOption_readTree`), with all of the reader's work. What is
left is to find a layout for a value: one without white space, with each string spelled as the
printer spells it and each integer by its digits. `IsCompact` has both things that are asked of it:
its text is what the printer writes, and it stands for the value. The layout is found by induction
on the value, and for lists item by item.

The depth of a value is counted as the reader counts, by what is open at a time. Both are maxima
over items, so that a bound on the depth is one on every item.

## The side conditions

* `Integral`: the printer writes a floating-point number by the shortest digits that tell it from
  its neighbours, but the reader rounds twice and may miss it.
* The depth: the reader has a limit, the printer has none.
* `DistinctKeys` is only asked for where keys are collapsed behind the reader (`read_print`).
-/

namespace ShopQuery.Json

/-! ## 1. Which values -/

/-- Every number of the value is an integer of 64 bits, signed or unsigned. -/
inductive Integral : Json → Prop
  | null : Integral .null
  | bool (value : Bool) : Integral (.bool value)
  | integer {n : Int} (fits : FitsNumber n) : Integral (.number (.integer n))
  | string (value : String) : Integral (.string value)
  | array {items : List Json} (items_integral : ∀ item ∈ items, Integral item) :
    Integral (.array items)
  | object {members : List (String × Json)}
    (values_integral : ∀ member ∈ members, Integral member.2) : Integral (.object members)

/-- A number of 64 bits is such an integer. -/
theorem Integral.ofInt64 (n : Int64) : (ofInt64 n).Integral := .integer (fitsNumber_toInt n)

mutual

/-- How many arrays and objects of a value are open at a time. -/
def depth : Json → Nat
  | .array items => depthOfItems items + 1
  | .object members => depthOfMembers members + 1
  | _ => 0

def depthOfItems : List Json → Nat
  | [] => 0
  | item :: rest => max (depth item) (depthOfItems rest)

def depthOfMembers : List (String × Json) → Nat
  | [] => 0
  | (_, value) :: rest => max (depth value) (depthOfMembers rest)

end

/-- The depth of items is bounded where each of them is. -/
theorem depthOfItems_le_iff {items : List Json} {n : Nat} :
    depthOfItems items ≤ n ↔ ∀ item ∈ items, item.depth ≤ n := by
  induction items with
  | nil => simp [depthOfItems]
  | cons item rest ih => rw [depthOfItems, Nat.max_le, ih, List.forall_mem_cons]

/-- The depth of members is bounded where the value of each is. -/
theorem depthOfMembers_le_iff {members : List (String × Json)} {n : Nat} :
    depthOfMembers members ≤ n ↔ ∀ member ∈ members, member.2.depth ≤ n := by
  induction members with
  | nil => simp [depthOfMembers]
  | cons head rest ih => rw [depthOfMembers, Nat.max_le, ih, List.forall_mem_cons]

/-! ## 2. The compact form as a layout -/

namespace Layout

/-- A layout of a value without white space. -/
structure IsCompact (value : Json) (layout : Layout) : Prop where
  text_eq : layout.text = write value
  eval_eq : ∀ depth, value.depth ≤ depth → layout.eval depth = some value

def quoted (s : String) : Quoted := ⟨s.toList.flatMap escape, s, readString_quoted s⟩

/-- A key without white space. -/
def compactKey (key : String) : Key := ⟨.none, quoted key, .none⟩

/-- A compact key is the quoted key and a colon. -/
theorem text_compactKey (key : String) : (compactKey key).text = quote key ++ [':'] := by
  simp [Key.text, compactKey, Blank.none, Quoted.text, quoted, quote]

theorem text_moreItems {items : List Json} {layouts : List Layout}
    (h : List.Forall₂ IsCompact items layouts) :
    textOfMoreItems layouts = writeMoreItems items := by
  induction h with
  | nil => rfl
  | cons hitem _ ih => rw [textOfMoreItems, writeMoreItems, hitem.text_eq, ih]

theorem text_items {items : List Json} {layouts : List Layout}
    (h : List.Forall₂ IsCompact items layouts) : textOfItems layouts = writeItems items := by
  cases h with
  | nil => rfl
  | cons hitem hitems => rw [textOfItems, writeItems, hitem.text_eq, text_moreItems hitems]

/-- Compact layouts of items stand for them, if they are not too deep. -/
theorem eval_items {items : List Json} {layouts : List Layout}
    (h : List.Forall₂ IsCompact items layouts) {depth : Nat} (hdepth : depthOfItems items ≤ depth) :
    evalItems depth layouts = some items := by
  induction h with
  | nil => rfl
  | cons hitem _ ih =>
    rw [depthOfItems, Nat.max_le] at hdepth
    rw [evalItems, hitem.eval_eq depth hdepth.1, ih hdepth.2]
    rfl

/-- A member with a compact layout of its value. -/
def IsCompactMember (member : String × Json) (layout : Key × Layout) : Prop :=
  layout.1 = compactKey member.1 ∧ IsCompact member.2 layout.2

theorem text_moreMembers {members : List (String × Json)} {layouts : List (Key × Layout)}
    (h : List.Forall₂ IsCompactMember members layouts) :
    textOfMoreMembers layouts = writeMoreMembers members := by
  induction h with
  | nil => rfl
  | @cons member layout _ _ hmember _ ih =>
    obtain ⟨key, value⟩ := member
    obtain ⟨_, layout⟩ := layout
    obtain ⟨rfl, hvalue⟩ := hmember
    rw [textOfMoreMembers, writeMoreMembers, text_compactKey, hvalue.text_eq, ih, List.append_assoc]
    rfl

theorem text_members {members : List (String × Json)} {layouts : List (Key × Layout)}
    (h : List.Forall₂ IsCompactMember members layouts) :
    textOfMembers layouts = writeMembers members := by
  cases h with
  | nil => rfl
  | @cons member layout _ _ hmember hmembers =>
    obtain ⟨key, value⟩ := member
    obtain ⟨_, layout⟩ := layout
    obtain ⟨rfl, hvalue⟩ := hmember
    rw [textOfMembers, writeMembers, text_compactKey, hvalue.text_eq, text_moreMembers hmembers,
      List.append_assoc]
    rfl

/-- Compact layouts of members stand for them, if they are not too deep. -/
theorem eval_members {members : List (String × Json)} {layouts : List (Key × Layout)}
    (h : List.Forall₂ IsCompactMember members layouts) {depth : Nat}
    (hdepth : depthOfMembers members ≤ depth) : evalMembers depth layouts = some members := by
  induction h with
  | nil => rfl
  | @cons member layout _ _ hmember _ ih =>
    obtain ⟨key, value⟩ := member
    obtain ⟨_, layout⟩ := layout
    obtain ⟨rfl, hvalue⟩ := hmember
    rw [depthOfMembers, Nat.max_le] at hdepth
    rw [evalMembers, hvalue.eval_eq depth hdepth.1, ih hdepth.2]
    rfl

/-- The compact form of a value whose numbers are integers is the text of a layout. -/
theorem exists_isCompact {value : Json} (h : value.Integral) :
    ∃ layout, IsCompact value layout := by
  induction h with
  | null => exact ⟨.null, rfl, fun _ _ => rfl⟩
  | bool value => exact ⟨.bool value, by cases value <;> rfl, fun _ _ => rfl⟩
  | @integer n fits =>
    refine ⟨.number (.ofInt n), Literal.text_ofInt n, fun _ _ => ?_⟩
    rw [eval, Literal.number?_ofInt fits]
    rfl
  | string value => exact ⟨.string (quoted value), rfl, fun _ _ => rfl⟩
  | @array items _ ih =>
    obtain ⟨layouts, hlayouts⟩ := exists_forall₂_iff.mpr ih
    refine ⟨.array .none layouts, ?_, fun depth hdepth => ?_⟩
    · rw [text, write, text_items hlayouts]
      rfl
    · rw [Json.depth] at hdepth
      obtain ⟨depth, rfl⟩ := Nat.exists_eq_add_of_le' (show 1 ≤ depth by omega)
      rw [eval, eval_items hlayouts (by omega)]
      rfl
  | @object members _ ih =>
    have hmembers : ∀ member ∈ members, ∃ layout, IsCompactMember member layout :=
      fun member hmember => by
        obtain ⟨layout, hlayout⟩ := ih member hmember
        exact ⟨(compactKey member.1, layout), rfl, hlayout⟩
    obtain ⟨layouts, hlayouts⟩ := exists_forall₂_iff.mpr hmembers
    refine ⟨.object .none layouts, ?_, fun depth hdepth => ?_⟩
    · rw [text, write, text_members hlayouts]
      rfl
    · rw [Json.depth] at hdepth
      obtain ⟨depth, rfl⟩ := Nat.exists_eq_add_of_le' (show 1 ≤ depth by omega)
      rw [eval, eval_members hlayouts (by omega)]
      rfl

end Layout

/-! ## 3. Texts -/

/-- **A written value is what its text spells**, with or without white space behind it. -/
theorem readTree_print_append {value : Json} (h : value.Integral)
    (hdepth : value.depth ≤ maxDepth) (blank : String)
    (hblank : ∀ c ∈ blank.toList, isSpace c = true) :
    readTree (value.print ++ blank) = .ok value := by
  obtain ⟨layout, htext, heval⟩ := Layout.exists_isCompact h
  have htoList : (value.print ++ blank).toList =
      (Layout.spaced .none layout ⟨blank.toList, hblank⟩).text := by
    rw [String.toList_append, print, String.toList_ofList, Layout.text, htext]
    rfl
  have hread := toOption_readTree htoList
  rw [Layout.eval, heval maxDepth hdepth] at hread
  exact toOption_eq_some_iff.mp hread

/-- A value without repeated keys is also what its text spells after collapsing. -/
theorem read_print {value : Json} (h : value.Integral) (hkeys : value.DistinctKeys)
    (hdepth : value.depth ≤ maxDepth) : read value.print = .ok value := by
  have hread := readTree_print_append h hdepth "" fun _ hc => nomatch hc
  rw [String.append_empty] at hread
  rw [read, hread, Except.map, collapse_of_distinctKeys hkeys]

end ShopQuery.Json
