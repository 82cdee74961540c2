import Mathlib.Logic.Relation
import ShopQuery.Proofs.Json.Members
import ShopQuery.Proofs.SameOutcome

/-!
# Values with their members in another order

`Reordered` holds of two values that differ in nothing but the order in which members stand in their
objects. One step moves the members of one object, at any depth (`Reorders`); any number of steps
may follow. Where no key is repeated, a key has the same value in every order (`lookup_of_perm`).

## How the proof goes

What is asked of a value is asked by looking keys up, so it is enough to follow a key. A step either
permutes the members among which the key is, or it changes the value of one member and leaves the
others alone. In the first case the key has the same value; in the second it has either a value that
was not touched, or the one that was, and then the answer depends on that value
(`rel_bind_lookup`). A statement about all steps follows by induction on them.

Steps are small on purpose: one object, in one place. Statements about a step have one thing that
changes, and `ReflTransGen` makes of them all that can be reached. Items of an array that are each
reordered are reached so one after the other (`Reordered.array`).

## The side condition

The keys have to be distinct. A key that is repeated has its first value when it is looked up, and
another order might put another one first. Whether keys are distinct does not depend on the order
itself (`Reordered.distinctKeys_iff`).
-/

namespace ShopQuery.Json

/-! ## 1. Steps -/

/-- The members of one object change their order: of the value itself, of an item of it or of the
value of a member of it. -/
inductive Reorders : Json → Json → Prop
  | members {members moved : List (String × Json)} (perm : members.Perm moved) :
    Reorders (.object members) (.object moved)
  | item {before after : List Json} {item moved : Json} (step : Reorders item moved) :
    Reorders (.array (before ++ item :: after)) (.array (before ++ moved :: after))
  | value {before after : List (String × Json)} {key : String} {value moved : Json}
    (step : Reorders value moved) :
    Reorders (.object (before ++ (key, value) :: after)) (.object (before ++ (key, moved) :: after))

/-- Two values differ in the order of members alone. -/
def Reordered : Json → Json → Prop := Relation.ReflTransGen Reorders

namespace Reordered

theorem refl (value : Json) : Reordered value value := Relation.ReflTransGen.refl

/-- One object, by a permutation of its members. -/
theorem of_perm {members moved : List (String × Json)} (h : members.Perm moved) :
    Reordered (.object members) (.object moved) := .single (.members h)

theorem trans {a b c : Json} (h : Reordered a b) (h' : Reordered b c) : Reordered a c :=
  Relation.ReflTransGen.trans h h'

/-- An item of an array may be reordered. -/
theorem item {item moved : Json} (h : Reordered item moved) (before after : List Json) :
    Reordered (.array (before ++ item :: after)) (.array (before ++ moved :: after)) := by
  induction h with
  | refl => exact refl _
  | tail _ step ih => exact Relation.ReflTransGen.tail ih (.item step)

/-- The value of a member may be reordered. -/
theorem value {value moved : Json} (h : Reordered value moved) (key : String)
    (before after : List (String × Json)) :
    Reordered (.object (before ++ (key, value) :: after))
      (.object (before ++ (key, moved) :: after)) := by
  induction h with
  | refl => exact refl _
  | tail _ step ih => exact Relation.ReflTransGen.tail ih (.value step)

/-- The items of an array may all be reordered, one after the other. -/
theorem array {items moved : List Json} (h : List.Forall₂ Reordered items moved) :
    Reordered (.array items) (.array moved) := by
  suffices hbehind : ∀ before, Reordered (.array (before ++ items)) (.array (before ++ moved)) from
    hbehind []
  induction h with
  | nil => exact fun before => refl _
  | @cons item other items moved hitem _ ih =>
    intro before
    have hrest := ih (before ++ [other])
    simp only [List.append_assoc, List.singleton_append] at hrest
    exact (hitem.item before items).trans hrest

end Reordered

/-! ## 2. What does not change -/

section

variable {value moved : Json}

/-- Only arrays and objects are reordered. -/
theorem Reorders.string?_eq (h : Reorders value moved) : value.string? = moved.string? := by
  cases h <;> rfl

/-- So are numbers what they were. -/
theorem Reorders.int64?_eq (h : Reorders value moved) : value.int64? = moved.int64? := by
  cases h <;> rfl

/-- The items of an array stay in their places. -/
theorem Reorders.items? (h : Reorders value moved) :
    Option.Rel (List.Forall₂ Reordered) value.items? moved.items? := by
  cases h with
  | members => exact .none
  | value => exact .none
  | @item before after item moved step =>
    exact .some (List.rel_append (List.forall₂_same.mpr fun item _ => .refl item)
      (.cons (.single step) (List.forall₂_same.mpr fun item _ => .refl item)))

/-- A step repeats no key, at any depth. -/
theorem Reorders.distinctKeys_iff (h : Reorders value moved) :
    value.DistinctKeys ↔ moved.DistinctKeys := by
  induction h with
  | members perm =>
    have hkeys : (keysOf _).Perm (keysOf _) := perm.map Prod.fst
    simp only [distinctKeys_object_iff, hkeys.nodup_iff, perm.mem_iff]
  | item _ ih => simp [distinctKeys_array_iff, or_imp, forall_and, ih]
  | value _ ih => simp [distinctKeys_object_iff, keysOf, or_imp, forall_and, ih]

/-- No order makes a key repeat. -/
theorem Reordered.distinctKeys_iff (h : Reordered value moved) :
    value.DistinctKeys ↔ moved.DistinctKeys := by
  induction h with
  | refl => exact Iff.rfl
  | tail _ step ih => exact ih.trans step.distinctKeys_iff

end

/-! ## 3. Looking up -/

section

variable {members moved : List (String × Json)}

/-- A key has the same value in every order. -/
theorem lookup_of_perm (h : (keysOf members).Nodup) (perm : members.Perm moved) (key : String) :
    lookup key members = lookup key moved := by
  have hmoved : (keysOf moved).Nodup := (perm.map Prod.fst).nodup_iff.mp h
  refine Option.ext fun value => ?_
  rw [lookup_eq_some_iff h, lookup_eq_some_iff hmoved, perm.mem_iff]

/-- More members make no difference to a key that is not among them. -/
theorem lookup_append_of_notMem {key : String} {more : List (String × Json)}
    (h : key ∉ keysOf more) (members : List (String × Json)) :
    lookup key (members ++ more) = lookup key members := by
  induction members with
  | nil =>
    refine Option.not_isSome_iff_eq_none.mp fun hsome => h ?_
    exact isSome_lookup_iff.mp hsome
  | cons head rest ih =>
    obtain ⟨k, v⟩ := head
    rw [List.cons_append, lookup, lookup, ih]

/-- The value at one place is what a key has, or it makes no difference to what the key has. -/
theorem lookup_place (k : String) (before : List (String × Json)) (key : String)
    (after : List (String × Json)) :
    (∀ value, lookup k (before ++ (key, value) :: after) = some value) ∨
      ∃ found, ∀ value, lookup k (before ++ (key, value) :: after) = found := by
  induction before with
  | nil =>
    by_cases hkey : key = k
    · exact Or.inl fun value => if_pos hkey
    · exact Or.inr ⟨lookup k after, fun value => if_neg hkey⟩
  | cons head rest ih =>
    obtain ⟨k', v'⟩ := head
    by_cases hkey : k' = k
    · exact Or.inr ⟨some v', fun value => if_pos hkey⟩
    · rcases ih with ih | ⟨found, ih⟩
      · exact Or.inl fun value => (if_neg hkey).trans (ih value)
      · exact Or.inr ⟨found, fun value => (if_neg hkey).trans (ih value)⟩

variable {γ : Type} {f : Json → Option γ}

/-- What a key is asked has answers that belong together, if values that are reordered have. -/
theorem rel_bind_lookup {R : γ → γ → Prop} (hR : ∀ a, R a a)
    (hf : ∀ {value other}, Reorders value other → Option.Rel R (f value) (f other))
    (hnodup : (keysOf members).Nodup) (h : Reorders (.object members) (.object moved))
    (key : String) : Option.Rel R ((lookup key members).bind f) ((lookup key moved).bind f) := by
  cases h with
  | members perm =>
    rw [lookup_of_perm hnodup perm]
    exact rel_refl hR _
  | @value before after k value other step =>
    rcases lookup_place key before k after with hplace | ⟨found, hplace⟩
    · rw [hplace value, hplace other]
      exact hf step
    · rw [hplace value, hplace other]
      exact rel_refl hR _

/-- What a key is asked has the same answer, if it does not depend on orders itself. -/
theorem bind_lookup_eq (hf : ∀ {value other}, Reorders value other → f value = f other)
    (hnodup : (keysOf members).Nodup) (h : Reorders (.object members) (.object moved))
    (key : String) : (lookup key members).bind f = (lookup key moved).bind f := by
  have hrel : Option.Rel Eq ((lookup key members).bind f) ((lookup key moved).bind f) :=
    rel_bind_lookup (fun _ => rfl) (fun step => hf step ▸ rel_refl (fun _ => rfl) _) hnodup h key
  generalize (lookup key members).bind f = found at hrel
  generalize (lookup key moved).bind f = found' at hrel
  cases hrel with
  | none => rfl
  | some heq => rw [heq]

end

end ShopQuery.Json
