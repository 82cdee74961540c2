import Mathlib.Data.List.Forall2

/-!
# Outcomes that differ in their values alone

Two computations that may fail do so together and with the same error, or both have values that
belong together. Stages of such computations make such computations (`SameOutcome.bind`).

Where errors are worded in different ways, what is left is that both computations fail or both
succeed (`SameSuccess`); to have the same outcome is then to have the same error
(`SameSuccess.sameOutcome_iff`).

## How it is used

A statement about two runs is proved along the program: `bind` where both runs take a stage that
depends on what differs, `after` where they take the same stage, `guard` where they make a check
that does not see the difference. `refl` ends a branch in which nothing differs any more. No proof
of this kind unfolds a stage into its successes and failures.

`map_eq` turns the relation into an equation, at a function that does not tell related values apart.
This is how a document or a display comes to be the same although the settings behind it differ.

The relation is on values and never on errors: an error is shown as it stands, so errors that differ
would be seen. The one place where they may differ is the wording of a refused config file, which is
why `SameSuccess` is there. It has no `bind`: after one stage the two errors would have to be
compared anyway, and `sameOutcome_iff` says what is to be compared.
-/

namespace ShopQuery

variable {α β γ δ ε ζ : Type}

/-- Two outcomes are the same error, or two values that belong together. -/
inductive SameOutcome (R : α → β → Prop) : Except ε α → Except ε β → Prop where
  | error (e : ε) : SameOutcome R (.error e) (.error e)
  | ok {a : α} {b : β} (h : R a b) : SameOutcome R (.ok a) (.ok b)

namespace SameOutcome

variable {R : α → β → Prop} {S : γ → δ → Prop} {first : Except ε α} {second : Except ε β}

/-- What does not differ has the same outcome. -/
theorem refl {R : α → α → Prop} (hR : ∀ a, R a a) (outcome : Except ε α) :
    SameOutcome R outcome outcome := by
  cases outcome with
  | error e => exact .error e
  | ok a => exact .ok (hR a)

/-- **Stages that keep what differs apart can follow each other.** -/
theorem bind {next : α → Except ε γ} {other : β → Except ε δ} (h : SameOutcome R first second)
    (hnext : ∀ a b, R a b → SameOutcome S (next a) (other b)) :
    SameOutcome S (first >>= next) (second >>= other) := by
  cases h with
  | error e => exact .error e
  | ok h => exact hnext _ _ h

/-- The same stage goes before both. -/
theorem after (stage : Except ε α) {next : α → Except ε γ} {other : α → Except ε δ}
    (h : ∀ a, SameOutcome S (next a) (other a)) :
    SameOutcome S (stage >>= next) (stage >>= other) := by
  cases stage with
  | error e => exact .error e
  | ok a => exact h a

/-- What is made of such values belongs together in another way. -/
theorem map {f : α → γ} {g : β → δ} (h : SameOutcome R first second)
    (hfg : ∀ a b, R a b → S (f a) (g b)) : SameOutcome S (first.map f) (second.map g) := by
  cases h with
  | error e => exact .error e
  | ok h => exact .ok (hfg _ _ h)

/-- Values that belong together in one way may do so in a weaker one. -/
theorem mono {S : α → β → Prop} (h : SameOutcome R first second) (hRS : ∀ a b, R a b → S a b) :
    SameOutcome S first second := by
  cases h with
  | error e => exact .error e
  | ok h => exact .ok (hRS _ _ h)

/-- Two computations that are like a third are like each other. -/
theorem trans {R : α → α → Prop} {first second third : Except ε α} (h : SameOutcome R first second)
    (h' : SameOutcome R second third) (hR : ∀ a b c, R a b → R b c → R a c) :
    SameOutcome R first third := by
  cases h with
  | error e => exact h'
  | ok hab =>
    cases h' with
    | ok hbc => exact .ok (hR _ _ _ hab hbc)

/-- Traversals of lists that belong together. -/
theorem mapM {f : α → Except ε γ} {g : β → Except ε δ} {xs : List α} {ys : List β}
    (h : List.Forall₂ R xs ys) (hfg : ∀ a b, R a b → SameOutcome S (f a) (g b)) :
    SameOutcome (List.Forall₂ S) (xs.mapM f) (ys.mapM g) := by
  induction h with
  | nil => exact .ok .nil
  | cons hab _ ih =>
    rw [List.mapM_cons, List.mapM_cons]
    exact (hfg _ _ hab).bind fun _ _ hfirst => ih.bind fun _ _ hrest => .ok (.cons hfirst hrest)

/-- Another wording of errors, the same for both. -/
theorem mapError (h : SameOutcome R first second) (f : ε → ζ) :
    SameOutcome R (first.mapError f) (second.mapError f) := by
  cases h with
  | error e => exact .error (f e)
  | ok h => exact .ok h

/-- A check that does not tell such values apart goes before both. -/
theorem guard {c : Prop} [Decidable c] (e : ε) (h : SameOutcome R first second) :
    SameOutcome R (if c then .error e else first) (if c then .error e else second) := by
  split
  · exact .error e
  · exact h

/-- What does not tell such values apart makes the same of both. -/
theorem map_eq {f : α → γ} {g : β → γ} (h : SameOutcome R first second)
    (hfg : ∀ a b, R a b → f a = g b) : first.map f = second.map g := by
  cases h with
  | error e => rfl
  | ok h => exact congrArg Except.ok (hfg _ _ h)

/-- The values with what they are the outcomes of. -/
theorem with_eq (h : SameOutcome R first second) :
    SameOutcome (fun a b => first = .ok a ∧ second = .ok b ∧ R a b) first second := by
  cases h with
  | error e => exact .error e
  | ok h => exact .ok ⟨rfl, rfl, h⟩

end SameOutcome

/-- Two outcomes are errors both, whichever these are, or two values that belong together. -/
inductive SameSuccess (R : α → β → Prop) : Except ε α → Except ε β → Prop where
  | error (e e' : ε) : SameSuccess R (.error e) (.error e')
  | ok {a : α} {b : β} (h : R a b) : SameSuccess R (.ok a) (.ok b)

theorem SameOutcome.sameSuccess {R : α → β → Prop} {first : Except ε α} {second : Except ε β}
    (h : SameOutcome R first second) : SameSuccess R first second := by
  cases h with
  | error e => exact .error e e
  | ok h => exact .ok h

namespace SameSuccess

variable {R : α → β → Prop} {first : Except ε α} {second : Except ε β}

/-- What succeeds together does so whatever errors become, even of two kinds. -/
theorem mapError (h : SameSuccess R first second) (f g : ε → ζ) :
    SameSuccess R (first.mapError f) (second.mapError g) := by
  cases h with
  | error e e' => exact .error (f e) (g e')
  | ok h => exact .ok h

theorem refl {R : α → α → Prop} (hR : ∀ a, R a a) (outcome : Except ε α) :
    SameSuccess R outcome outcome := by
  cases outcome with
  | error e => exact .error e e
  | ok a => exact .ok (hR a)

/-- All that such outcomes may differ in is which error they are. -/
theorem sameOutcome_iff (h : SameSuccess R first second) :
    SameOutcome R first second ↔ ∀ e, first = .error e → second = .error e := by
  cases h with
  | ok h => exact ⟨fun _ => nofun, fun _ => .ok h⟩
  | error e e' =>
    constructor
    · rintro ⟨⟩ _ ⟨⟩
      rfl
    · intro hsame
      rw [hsame e rfl]
      exact .error e

end SameSuccess

/-- The same value twice, or twice none. -/
theorem rel_refl {R : α → α → Prop} (hR : ∀ a, R a a) (found : Option α) :
    Option.Rel R found found := by
  cases found with
  | none => exact .none
  | some a => exact .some (hR a)

end ShopQuery
