import ShopQuery.Number.Bigint

/-!
# When a checked sum is there

A checked sum is refused as soon as a partial sum does not fit (`sumChecked_eq_none_iff`), even
where the sum as a whole would fit again; where it is there, it is the exact sum
(`sumChecked_eq_some_iff`).

## How the proof goes

The sum is a fold that starts from zero, and no induction goes through for that start alone. So the
statement is made for any partial sum to begin with (`foldl_addChecked_eq_some_iff`), and the
induction is on what is left to add. Each step moves the partial sum by one number, and the sums
that have to fit are those of the prefixes of the rest, moved by it.

The exact sum is one of integers without bounds. It is there for every list, in any order the same
(`exactSum_eq_of_perm`), so that a checked sum in another order is no other number
(`sumChecked_unique_of_perm`). Which partial sums there are does depend on the order: that is all
that an order can change.
-/

namespace ShopQuery

/-- An integer within the bounds of 64 signed bits. -/
def Fits (n : Int) : Prop := Int64.minValue.toInt ≤ n ∧ n ≤ Int64.maxValue.toInt

instance (n : Int) : Decidable (Fits n) := inferInstanceAs (Decidable (_ ∧ _))

/-- The sum of a list in the integers. -/
def exactSum : List Int64 → Int
  | [] => 0
  | x :: xs => x.toInt + exactSum xs

@[simp] theorem exactSum_nil : exactSum [] = 0 := rfl

@[simp] theorem exactSum_cons (x : Int64) (xs : List Int64) :
    exactSum (x :: xs) = x.toInt + exactSum xs := rfl

/-- What has 64 bits fits them. -/
theorem fits_toInt (x : Int64) : Fits x.toInt :=
  ⟨Int64.minValue_le_toInt x, Int64.toInt_le x⟩

/-! ## 1. Single additions -/

/-- An integer that does not fit is no number of 64 bits. -/
theorem int64OfInt?_eq_none_iff {n : Int} : int64OfInt? n = none ↔ ¬ Fits n := by
  unfold int64OfInt? Fits
  split <;> simp_all

/-- One that fits is the same number there. -/
theorem int64OfInt?_eq_some_iff {n : Int} {v : Int64} :
    int64OfInt? n = some v ↔ Fits n ∧ v.toInt = n := by
  unfold int64OfInt?
  split
  · rename_i h
    have hof : (Int64.ofInt n).toInt = n := by
      apply Int64.toInt_ofInt_of_le
      · exact h.1
      · have := h.2
        simp only [Int64.toInt_maxValue] at this
        omega
    simp only [Option.some.injEq, ← Int64.toInt_inj, hof]
    exact ⟨fun heq => ⟨h, heq.symm⟩, fun heq => heq.2.symm⟩
  · rename_i h
    simp only [reduceCtorEq, false_iff]
    exact fun hv => h hv.1

/-! ## 2. Sums -/

/-- What was refused stays refused. -/
theorem foldl_addChecked_none (xs : List Int64) :
    xs.foldl (fun total x => total.bind (addChecked · x)) none = none := by
  induction xs with
  | nil => rfl
  | cons x xs ih => exact ih

/-- A sum that goes on from a partial sum, by induction on what is left to add. -/
theorem foldl_addChecked_eq_some_iff (a : Int64) (xs : List Int64) (v : Int64) :
    xs.foldl (fun total x => total.bind (addChecked · x)) (some a) = some v ↔
      (∀ n, Fits (a.toInt + exactSum (xs.take n))) ∧ v.toInt = a.toInt + exactSum xs := by
  induction xs generalizing a with
  | nil =>
    simp only [List.foldl_nil, Option.some.injEq, List.take_nil, exactSum_nil, Int.add_zero,
      ← Int64.toInt_inj]
    exact ⟨fun h => ⟨fun _ => fits_toInt a, h.symm⟩, fun h => h.2.symm⟩
  | cons x xs ih =>
    rw [List.foldl_cons, Option.bind_some, exactSum_cons]
    cases hstep : addChecked a x with
    | none =>
      -- A sum that did not fit stays none, and the partial sum of one element is the one that does
      -- not fit.
      rw [foldl_addChecked_none]
      simp only [reduceCtorEq, false_iff, not_and]
      intro hfits
      have hfirst : Fits (a.toInt + x.toInt) := by simpa using hfits 1
      exact absurd hfirst (int64OfInt?_eq_none_iff.mp hstep)
    | some b =>
      obtain ⟨_, hb⟩ := int64OfInt?_eq_some_iff.mp hstep
      rw [ih b, hb, Int.add_assoc]
      constructor
      · rintro ⟨hfits, hv⟩
        refine ⟨fun n => ?_, hv⟩
        cases n with
        | zero => simpa using fits_toInt a
        | succ n => simpa [Int.add_assoc] using hfits n
      · rintro ⟨hfits, hv⟩
        exact ⟨fun n => by simpa [Int.add_assoc] using hfits (n + 1), hv⟩

/-- **A checked sum is there where every partial sum fits**, and it is exact. -/
theorem sumChecked_eq_some_iff {xs : List Int64} {v : Int64} :
    sumChecked xs = some v ↔ (∀ n, Fits (exactSum (xs.take n))) ∧ v.toInt = exactSum xs := by
  unfold sumChecked
  rw [foldl_addChecked_eq_some_iff]
  simp only [Int64.toInt_zero, Int.zero_add]

/-- **It is refused where some partial sum does not fit.** -/
theorem sumChecked_eq_none_iff {xs : List Int64} :
    sumChecked xs = none ↔ ∃ n, ¬ Fits (exactSum (xs.take n)) := by
  constructor
  · intro hnone
    by_cases hfits : ∀ n, Fits (exactSum (xs.take n))
    · have hwhole : Fits (exactSum xs) := by simpa using hfits xs.length
      cases hv : int64OfInt? (exactSum xs) with
      | none => exact absurd hwhole (int64OfInt?_eq_none_iff.mp hv)
      | some v =>
        have hsome := sumChecked_eq_some_iff.mpr ⟨hfits, (int64OfInt?_eq_some_iff.mp hv).2⟩
        rw [hnone] at hsome
        cases hsome
    · exact Classical.not_forall.mp hfits
  · rintro ⟨n, hn⟩
    cases h : sumChecked xs with
    | none => rfl
    | some v => exact absurd ((sumChecked_eq_some_iff.mp h).1 n) hn

/-! ## 3. Order -/

/-- Sums of integers do not depend on the order. -/
theorem exactSum_eq_of_perm {xs ys : List Int64} (h : xs.Perm ys) : exactSum xs = exactSum ys := by
  induction h with
  | nil => rfl
  | cons x _ ih => rw [exactSum_cons, exactSum_cons, ih]
  | swap x y rest =>
    simp only [exactSum_cons]
    omega
  | trans _ _ ih ih' => exact ih.trans ih'

/-- In another order a sum may be refused, but it is no other sum. -/
theorem sumChecked_unique_of_perm {xs ys : List Int64} (h : xs.Perm ys) {m n : Int64}
    (hm : sumChecked xs = some m) (hn : sumChecked ys = some n) : m = n := by
  have hxs := (sumChecked_eq_some_iff.mp hm).2
  have hys := (sumChecked_eq_some_iff.mp hn).2
  rw [← Int64.toInt_inj, hxs, hys, exactSum_eq_of_perm h]

example : sumChecked [Int64.maxValue, 1, -1] = none ∧
    sumChecked [Int64.maxValue, -1, 1] = some Int64.maxValue := by decide

end ShopQuery
