import Mathlib.Data.List.Forall2

/-!
# First failures

What going through a list until something fails comes to.

* `mapM_eq_ok_iff`: a traversal succeeds exactly where every step does, and then it has their
  values in order.
* `mapM_eq_error_iff`: it fails exactly with the first failure of a step.

## Why they are stated so

Most of what is said of reports is said twice: which value there is where all goes well, and which
error where something does not. The lemmas here take stages apart in either case (`bind`, `map`,
`mapError`), each as an equivalence, so that one lemma serves a proof in both directions.

A failure splits the list in three: members that succeed, the one that fails, and a rest of which
nothing is said, because it is never looked at. A success pairs the list with its values
(`List.Forall₂`). The lemmas on such pairs at the end are for lists that are the outcome of a
traversal; those in Mathlib ask for lengths or indices where a member is what is at hand.
-/

namespace ShopQuery

variable {α β ε : Type}

/-- Two stages succeed exactly where the first does and then the second. -/
theorem bind_eq_ok_iff {first : Except ε α} {next : α → Except ε β} {b : β} :
    first >>= next = .ok b ↔ ∃ a, first = .ok a ∧ next a = .ok b := by
  cases first with
  | error e => simp [bind, Except.bind]
  | ok a => simp [bind, Except.bind]

/-- Two stages fail where the first does, or the second after it. -/
theorem bind_eq_error_iff {first : Except ε α} {next : α → Except ε β} {e : ε} :
    first >>= next = .error e ↔ first = .error e ∨ ∃ a, first = .ok a ∧ next a = .error e := by
  cases first with
  | error e => simp [bind, Except.bind]
  | ok a => simp [bind, Except.bind]

/-- A value is made of what succeeds. -/
theorem map_eq_ok_iff {value : Except ε α} {f : α → β} {b : β} :
    value.map f = .ok b ↔ ∃ a, value = .ok a ∧ f a = b := by
  cases value <;> simp [Except.map]

/-- What is made of a value does not change its error. -/
theorem map_eq_error_iff {value : Except ε α} {f : α → β} {e : ε} :
    value.map f = .error e ↔ value = .error e := by
  cases value <;> simp [Except.map]

/-- Another wording of errors does not change what succeeds. -/
theorem mapError_eq_ok_iff {δ : Type} {value : Except ε α} {f : ε → δ} {a : α} :
    value.mapError f = .ok a ↔ value = .ok a := by
  cases value <;> simp [Except.mapError]

theorem mapError_eq_error_iff {δ : Type} {value : Except ε α} {f : ε → δ} {d : δ} :
    value.mapError f = .error d ↔ ∃ e, value = .error e ∧ d = f e := by
  cases value <;> simp [Except.mapError, eq_comm]

theorem toOption_eq_some_iff {value : Except ε α} {a : α} :
    value.toOption = some a ↔ value = .ok a := by
  cases value <;> simp [Except.toOption]

theorem toOption_eq_none_iff {value : Except ε α} :
    value.toOption = none ↔ ∃ e, value = .error e := by
  cases value <;> simp [Except.toOption]

theorem toOption_map (value : Except ε α) (f : α → β) :
    (value.map f).toOption = value.toOption.map f := by
  cases value <;> rfl

theorem toOption_mapError {δ : Type} (value : Except ε α) (f : ε → δ) :
    (value.mapError f).toOption = value.toOption := by
  cases value <;> rfl

/-- What is made of a value afterwards can be made of it at once. -/
theorem map_bind_pure {γ : Type} (first : Except ε α) (f : α → β) (g : β → γ) :
    (first >>= fun a => pure (f a)).map g = first.map fun a => g (f a) := by
  cases first <;> rfl

/-- A traversal sees of its steps only what they do to the members. -/
theorem mapM_congr {f g : α → Except ε β} {xs : List α} (h : ∀ x ∈ xs, f x = g x) :
    xs.mapM f = xs.mapM g := by
  induction xs with
  | nil => rfl
  | cons x xs ih =>
    obtain ⟨hx, hxs⟩ := List.forall_mem_cons.mp h
    rw [List.mapM_cons, List.mapM_cons, hx, ih hxs]

/-- **A traversal succeeds exactly where every step does**, with their values in order. -/
theorem mapM_eq_ok_iff (f : α → Except ε β) (xs : List α) (ys : List β) :
    xs.mapM f = .ok ys ↔ List.Forall₂ (fun x y => f x = .ok y) xs ys := by
  induction xs generalizing ys with
  | nil => cases ys <;> simp [pure, Except.pure]
  | cons x xs ih =>
    rw [List.mapM_cons, bind_eq_ok_iff, List.forall₂_cons_left_iff]
    constructor
    · rintro ⟨y, hy, h⟩
      obtain ⟨rest, hrest, h⟩ := bind_eq_ok_iff.mp h
      cases h
      exact ⟨y, rest, hy, (ih rest).mp hrest, rfl⟩
    · rintro ⟨y, rest, hy, hrest, rfl⟩
      exact ⟨y, hy, bind_eq_ok_iff.mpr ⟨rest, (ih rest).mpr hrest, rfl⟩⟩

/-- **A traversal fails exactly with its first failure.** By induction on the list: the failure is
at its head, or behind a head that succeeds. -/
theorem mapM_eq_error_iff (f : α → Except ε β) (xs : List α) (e : ε) :
    xs.mapM f = .error e ↔
      ∃ before x after, xs = before ++ x :: after ∧
        (∀ y ∈ before, ∃ v, f y = .ok v) ∧ f x = .error e := by
  induction xs with
  | nil => simp [pure, Except.pure]
  | cons x xs ih =>
    rw [List.mapM_cons, bind_eq_error_iff]
    constructor
    · rintro (hx | ⟨v, hx, h⟩)
      · exact ⟨[], x, xs, rfl, by simp, hx⟩
      · rcases bind_eq_error_iff.mp h with h | ⟨rest, _, h⟩
        · obtain ⟨before, y, after, rfl, hbefore, hy⟩ := ih.mp h
          exact ⟨x :: before, y, after, rfl, by simpa using ⟨⟨v, hx⟩, hbefore⟩, hy⟩
        · cases h
    · rintro ⟨before, y, after, hsplit, hbefore, hy⟩
      cases before with
      | nil =>
        cases hsplit
        exact Or.inl hy
      | cons b before =>
        cases hsplit
        obtain ⟨v, hv⟩ := hbefore x (by simp)
        have htail : (before ++ y :: after).mapM f = .error e :=
          ih.mpr ⟨before, y, after, rfl, fun z hz => hbefore z (by simp [hz]), hy⟩
        exact Or.inr ⟨v, hv, bind_eq_error_iff.mpr (Or.inl htail)⟩

/-- Lists that belong together in two steps belong together. -/
theorem forall₂_trans {R : α → α → Prop} {xs ys zs : List α} (h : List.Forall₂ R xs ys)
    (h' : List.Forall₂ R ys zs) (hR : ∀ a b c, R a b → R b c → R a c) : List.Forall₂ R xs zs := by
  induction h generalizing zs with
  | nil => exact h'
  | cons hxy _ ih =>
    cases h' with
    | cons hyz hrest => exact .cons (hR _ _ _ hxy hyz) (ih hrest)

/-- Lists that belong together have a partner for every member, at the same place. -/
theorem exists_mem_zip_of_forall₂ {R : α → β → Prop} {xs : List α} {ys : List β}
    (h : List.Forall₂ R xs ys) {x : α} (hx : x ∈ xs) : ∃ y, (x, y) ∈ xs.zip ys ∧ R x y := by
  induction h with
  | nil => cases hx
  | cons hxy _ ih =>
    rcases List.mem_cons.mp hx with rfl | hx
    · exact ⟨_, List.mem_cons_self, hxy⟩
    · obtain ⟨y, hy, hrel⟩ := ih hx
      exact ⟨y, List.mem_cons_of_mem _ hy, hrel⟩

theorem exists_of_forall₂_of_mem {R : α → β → Prop} {xs : List α} {ys : List β}
    (h : List.Forall₂ R xs ys) {x : α} (hx : x ∈ xs) : ∃ y ∈ ys, R x y := by
  obtain ⟨y, hy, hrel⟩ := exists_mem_zip_of_forall₂ h hx
  exact ⟨y, (List.of_mem_zip hy).2, hrel⟩

/-- A list has one that belongs with it exactly where every member has a partner. -/
theorem exists_forall₂_iff {R : α → β → Prop} {xs : List α} :
    (∃ ys, List.Forall₂ R xs ys) ↔ ∀ x ∈ xs, ∃ y, R x y := by
  induction xs with
  | nil => simp
  | cons x xs ih =>
    rw [List.forall_mem_cons, ← ih]
    constructor
    · rintro ⟨_, _ | ⟨hy, hrest⟩⟩
      exact ⟨⟨_, hy⟩, _, hrest⟩
    · rintro ⟨⟨y, hy⟩, ys, hrest⟩
      exact ⟨y :: ys, .cons hy hrest⟩

end ShopQuery
