import Mathlib.Algebra.Order.Field.Power
import Mathlib.Data.Nat.Log
import Mathlib.Tactic.FieldSimp
import Mathlib.Tactic.Linarith
import Mathlib.Tactic.NormNum
import Mathlib.Tactic.Positivity
import Mathlib.Tactic.Ring
import ShopQuery.Number.Binary64

/-!
# The error of rounding

`Magnitude.value` is the number that a magnitude stands for. A fraction is rounded to a magnitude
that is at most half a place away (`abs_value_sub_le`), and to none only where it is at least
`2 ^ 1024 - 2 ^ 970`, half a place beyond the greatest magnitude (`le_of_nearest_eq_none`,
`le_of_nearest_eq_some`).

## How the proof goes

A fraction is rounded in two steps, and each has its own section.

* Its last place is found (`place`): 52 below the greatest power of two that is not above the
  fraction (`log2Floor_spec`), but never below that of the least magnitudes. So the fraction has
  fewer than `2 ^ 53` units of that place (`div_lt_place`).
* Its units of that place are rounded to a natural number (`units`), at most a half away
  (`abs_roundDiv_sub_le`). Which way a half goes plays no part in the bounds, so the tie rule is
  unfolded in that one lemma only.

Rounding up may make the units `2 ^ 53`, one more than there is room for. The magnitude is then the
next power of two, one place higher, and its value is the same number (`value_of_nearest`); so the
error of rounding has one formula for both cases.

All is computed with natural numbers and proved of rational ones. A power of two with an integer
exponent is a factor of the numerator or of the denominator, whichever is positive; `two_pow_toNat`
is the equation that leads from the two factors to the one power.

## Absolute and relative errors

Half a last place is a small part of the fraction (`roundoff`), unless the place is that of the
least magnitudes, where it is small in itself (`underflow`). The bound is the greater of the two.
Natural numbers are at least one or zero, so for them it is the part alone
(`abs_value_ofNat_sub_le`).
-/

namespace ShopQuery

/-! ## 1. Powers of two -/

/-- A power of two is one of the rational numbers, too. -/
theorem cast_twoTo (k : Nat) : (twoTo k : ℚ) = 2 ^ k := by
  unfold twoTo
  exact Nat.cast_pow 2 k

/-- The two powers that stand for one with an integer exponent. -/
theorem two_pow_toNat (e : Int) : (2 : ℚ) ^ e.toNat = 2 ^ e * 2 ^ (-e).toNat := by
  rw [← zpow_natCast, ← zpow_natCast, ← zpow_add₀ (by norm_num)]
  congr 1
  omega

theorem twoTo_pos (k : Nat) : 0 < twoTo k := Nat.pow_pos (by decide)

/-! ## 2. Rounded quotients -/

/-- A rounded quotient is at most a half away from the quotient. -/
theorem abs_roundDiv_sub_le (num : Nat) {den : Nat} (hden : 0 < den) :
    |(roundDiv num den : ℚ) - num / den| ≤ 1 / 2 := by
  have hdivision := Nat.div_add_mod num den
  have hrest := Nat.mod_lt num hden
  -- Twice the error is at most the divisor, which is a fact about natural numbers.
  have hbounds : 2 * num ≤ 2 * (den * roundDiv num den) + den ∧
      2 * (den * roundDiv num den) ≤ 2 * num + den := by
    unfold roundDiv
    generalize num / den = q at *
    generalize num % den = r at *
    have hsucc : den * (q + 1) = den * q + den := Nat.mul_succ den q
    dsimp only
    split
    · omega
    · split
      · omega
      · rcases Nat.mod_two_eq_zero_or_one q with hq | hq <;> simp only [hq, Nat.add_zero] <;> omega
  have hlow : (2 : ℚ) * num ≤ 2 * (den * roundDiv num den) + den := by exact_mod_cast hbounds.1
  have hhigh : (2 : ℚ) * (den * roundDiv num den) ≤ 2 * num + den := by exact_mod_cast hbounds.2
  have hpos : (0 : ℚ) < den := by exact_mod_cast hden
  have hquotient : (num : ℚ) / den * den = num := div_mul_cancel₀ _ hpos.ne'
  rw [abs_le]
  constructor <;> refine le_of_mul_le_mul_right ?_ hpos <;> linarith

namespace Magnitude

/-- The number that a magnitude stands for. -/
def value (x : Magnitude) : ℚ := x.mantissa * 2 ^ x.exponent

/-- Magnitudes have no sign. -/
theorem value_nonneg (x : Magnitude) : 0 ≤ x.value := by
  unfold value
  positivity

theorem denominator_pos (x : Magnitude) : 0 < x.denominator := twoTo_pos _

/-- The fraction that is computed with stands for the same number. -/
theorem numerator_div_denominator (x : Magnitude) :
    (x.numerator : ℚ) / x.denominator = x.value := by
  unfold numerator denominator value
  rw [Nat.cast_mul, cast_twoTo, cast_twoTo, two_pow_toNat]
  field_simp

/-- The error of one rounding as a part of what is rounded. -/
def roundoff : ℚ := 1 / 2 ^ 53

theorem roundoff_pos : 0 < roundoff := by
  unfold roundoff
  positivity

theorem roundoff_le_fifth : roundoff ≤ 1 / 5 := by
  unfold roundoff
  norm_num

theorem roundoff_le_one : roundoff ≤ 1 := roundoff_le_fifth.trans (by norm_num)

/-- The error of one rounding where the last place is that of the least magnitudes. -/
def underflow : ℚ := 2 ^ minExponent / 2

theorem underflow_pos : 0 < underflow := by
  unfold underflow
  positivity

/-- The least magnitudes are far smaller than the part that rounding takes. -/
theorem underflow_le_roundoff : underflow ≤ roundoff := by
  have hplace : (2 : ℚ) ^ minExponent ≤ 2 ^ (-53 : Int) :=
    zpow_le_zpow_right₀ (by norm_num) (by decide)
  have hroundoff : (2 : ℚ) ^ (-53 : Int) = roundoff := by
    unfold roundoff
    norm_num
  rw [hroundoff] at hplace
  unfold underflow
  linarith [roundoff_pos]

/-! ## 3. The place of a fraction -/

section Nearest

variable {num den : Nat}

/-- A power of two is compared with a fraction in natural numbers. -/
theorem two_zpow_le_div_iff (hden : 0 < den) {k : Int} :
    (2 : ℚ) ^ k ≤ num / den ↔ den * twoTo k.toNat ≤ num * twoTo (-k).toNat := by
  have hpos : (0 : ℚ) < den := by exact_mod_cast hden
  rw [le_div_iff₀ hpos, ← Nat.cast_le (α := ℚ), Nat.cast_mul, Nat.cast_mul, cast_twoTo, cast_twoTo,
    two_pow_toNat k, ← mul_assoc, mul_le_mul_iff_left₀ (by positivity), mul_comm]

/-- The greatest power of two that is at most a fraction. -/
theorem log2Floor_spec (hnum : 0 < num) (hden : 0 < den) :
    (2 : ℚ) ^ log2Floor num den ≤ num / den ∧ (num / den : ℚ) < 2 ^ (log2Floor num den + 1) := by
  have hpos : (0 : ℚ) < den := by exact_mod_cast hden
  have hnumLow : (2 : ℚ) ^ num.log2 ≤ num := by exact_mod_cast Nat.log2_self_le hnum.ne'
  have hnumHigh : (num : ℚ) < 2 ^ (num.log2 + 1) := by exact_mod_cast Nat.lt_log2_self
  have hdenLow : (2 : ℚ) ^ den.log2 ≤ den := by exact_mod_cast Nat.log2_self_le hden.ne'
  have hdenHigh : (den : ℚ) < 2 ^ (den.log2 + 1) := by exact_mod_cast Nat.lt_log2_self
  have hsplit : ∀ i : Int, (2 : ℚ) ^ ((num.log2 : Int) - den.log2 + i) =
      2 ^ num.log2 * 2 ^ i / 2 ^ den.log2 := fun i => by
    rw [zpow_add₀ (by norm_num), zpow_sub₀ (by norm_num), zpow_natCast, zpow_natCast]
    ring
  -- The difference of the two lengths is the exponent or one more than it.
  have hhigh : (num / den : ℚ) < 2 ^ ((num.log2 : Int) - den.log2 + 1) := by
    rw [hsplit, div_lt_div_iff₀ hpos (by positivity)]
    calc (num : ℚ) * 2 ^ den.log2 < 2 ^ (num.log2 + 1) * 2 ^ den.log2 := by gcongr
      _ ≤ 2 ^ num.log2 * 2 ^ (1 : Int) * den := by
        rw [pow_succ, zpow_one]
        gcongr
  have hlow : (2 : ℚ) ^ ((num.log2 : Int) - den.log2 + -1) ≤ num / den := by
    rw [hsplit, div_le_div_iff₀ (by positivity) hpos]
    calc (2 : ℚ) ^ num.log2 * 2 ^ (-1 : Int) * den ≤
        num * 2 ^ (-1 : Int) * 2 ^ (den.log2 + 1) := by gcongr
      _ = num * 2 ^ den.log2 := by
        rw [pow_succ, zpow_neg_one]
        ring
  unfold log2Floor
  dsimp only
  split
  · rename_i h
    exact ⟨(two_zpow_le_div_iff hden).mpr h, hhigh⟩
  · rename_i h
    rw [sub_add_cancel]
    exact ⟨hlow, not_le.mp (mt (two_zpow_le_div_iff hden).mp h)⟩

/-- The last place of the magnitudes next to a fraction. -/
def place (num den : Nat) : Int := max minExponent (log2Floor num den - 52)

/-- A fraction in units of its last place, rounded. -/
def units (num den : Nat) : Nat :=
  roundDiv (num * twoTo (-place num den).toNat) (den * twoTo (place num den).toNat)

/-- Half a last place is a small part of the fraction, or of the least magnitudes. -/
theorem half_place_le (hnum : 0 < num) (hden : 0 < den) :
    (2 : ℚ) ^ place num den / 2 ≤ max underflow ((num : ℚ) / den * roundoff) := by
  unfold place
  rcases max_choice minExponent (log2Floor num den - 52) with h | h <;> rw [h]
  · exact le_max_left _ _
  · refine le_max_of_le_right ?_
    have hlow := mul_le_mul_of_nonneg_right (log2Floor_spec hnum hden).1 roundoff_pos.le
    refine Eq.trans_le ?_ hlow
    rw [sub_eq_add_neg, zpow_add₀ (by norm_num), roundoff]
    norm_num
    ring

/-- A fraction has fewer than `2 ^ 53` units of its last place. -/
theorem div_lt_place (hnum : 0 < num) (hden : 0 < den) :
    (num / den : ℚ) < 2 ^ (place num den + 53) := by
  refine (log2Floor_spec hnum hden).2.trans_le (zpow_le_zpow_right₀ (by norm_num) ?_)
  unfold place
  omega

/-- The units are at most a half away from those of the fraction. -/
theorem abs_units_sub_le (num : Nat) (hden : 0 < den) :
    |(units num den : ℚ) - num / den / 2 ^ place num den| ≤ 1 / 2 := by
  have hround := abs_roundDiv_sub_le (num * twoTo (-place num den).toNat)
    (Nat.mul_pos hden (twoTo_pos (place num den).toNat))
  have hunits : ((num * twoTo (-place num den).toNat : Nat) : ℚ) /
      ((den * twoTo (place num den).toNat : Nat) : ℚ) = num / den / 2 ^ place num den := by
    rw [Nat.cast_mul, Nat.cast_mul, cast_twoTo, cast_twoTo, two_pow_toNat (place num den)]
    field_simp
  rwa [hunits] at hround

/-- There are `2 ^ 53` units at most, and that many only after rounding up. -/
theorem units_le (hnum : 0 < num) (hden : 0 < den) : units num den ≤ twoTo 53 := by
  have hlt : (num : ℚ) / den / 2 ^ place num den < 2 ^ 53 := by
    rw [div_lt_iff₀ (by positivity), ← zpow_natCast, ← zpow_add₀ (by norm_num), add_comm]
    exact div_lt_place hnum hden
  have hcast : (units num den : ℚ) < twoTo 53 + 1 := by
    rw [cast_twoTo]
    linarith [(abs_le.mp (abs_units_sub_le num hden)).2]
  have hnat : units num den < twoTo 53 + 1 := by exact_mod_cast hcast
  omega

/-- The units of a fraction are at most half a place away from it. -/
theorem abs_units_mul_sub_le (num : Nat) (hden : 0 < den) :
    |(units num den * 2 ^ place num den : ℚ) - num / den| ≤ 2 ^ place num den / 2 := by
  have hplace : (0 : ℚ) < 2 ^ place num den := by positivity
  have hscaled : (units num den * 2 ^ place num den : ℚ) - num / den =
      (units num den - num / den / 2 ^ place num den) * 2 ^ place num den := by field_simp
  rw [hscaled, abs_mul, abs_of_pos hplace]
  have herror := mul_le_mul_of_nonneg_right (abs_units_sub_le num hden) hplace.le
  linarith

/-! ## 4. Rounding a fraction -/

/-- What a fraction is rounded to, by its units and its last place. -/
theorem nearest_eq (hnum : 0 < num) : nearest num den =
    if units num den = twoTo 53 then
      if place num den + 1 ≤ 971 then some ⟨twoTo 52, place num den + 1⟩ else none
    else if place num den ≤ 971 then some ⟨units num den, place num den⟩ else none := by
  by_cases hcarry : units num den = twoTo 53
  · rw [if_pos hcarry]
    have hround : roundDiv _ _ = twoTo 53 := hcarry
    rw [nearest, if_neg hnum.ne']
    simp only [place] at hround ⊢
    simp only [hround, if_true]
    rfl
  · rw [if_neg hcarry]
    have hround : ¬ roundDiv _ _ = twoTo 53 := hcarry
    rw [nearest, if_neg hnum.ne']
    simp only [place] at hround ⊢
    simp only [hround, if_false]
    rfl

/-- The next power of two has the same value with one place less. -/
theorem value_of_nearest {x : Magnitude} (hnum : 0 < num) (h : nearest num den = some x) :
    x.value = units num den * 2 ^ place num den := by
  rw [nearest_eq hnum] at h
  split at h
  · rename_i hcarry
    split at h <;> cases h
    rw [value, hcarry, cast_twoTo, cast_twoTo, zpow_add_one₀ (by norm_num)]
    ring
  · split at h <;> cases h
    rfl

/-- A fraction is out of range if its last place is above that of the greatest magnitude, or
rounding up would make it so. -/
theorem nearest_eq_none_iff (hnum : 0 < num) :
    nearest num den = none ↔
      971 < place num den ∨ place num den = 971 ∧ units num den = twoTo 53 := by
  rw [nearest_eq hnum]
  split
  · rename_i hcarry
    split <;> simp only [reduceCtorEq, hcarry, and_true, false_iff, true_iff] <;> omega
  · rename_i hcarry
    split <;> simp only [reduceCtorEq, hcarry, and_false, or_false, false_iff, true_iff] <;> omega

/-- **A fraction is rounded to a magnitude half a last place away at most.** -/
theorem abs_value_sub_le {x : Magnitude} (hden : 0 < den) (h : nearest num den = some x) :
    |x.value - num / den| ≤ max underflow ((num : ℚ) / den * roundoff) := by
  rcases Nat.eq_zero_or_pos num with rfl | hnum
  · obtain rfl : zero = x := by simpa [nearest] using h
    rw [value, zero, Nat.cast_zero, zero_div, zero_mul, zero_mul, sub_zero, abs_zero]
    exact le_max_of_le_left underflow_pos.le
  · rw [value_of_nearest hnum h]
    exact (abs_units_mul_sub_le num hden).trans (half_place_le hnum hden)

/-- Half a place below the first power of two that no magnitude has. -/
def threshold : ℚ := (2 ^ 53 - 1 / 2) * 2 ^ (971 : Int)

/-- What is rounded to none is at least half a place beyond the greatest magnitude. -/
theorem le_of_nearest_eq_none (hden : 0 < den) (h : nearest num den = none) :
    threshold ≤ num / den := by
  rcases Nat.eq_zero_or_pos num with rfl | hnum
  · simp [nearest] at h
  unfold threshold
  rcases (nearest_eq_none_iff hnum).mp h with hplace | ⟨hplace, hunits⟩
  · -- the fraction has 53 places above the last one
    have hlog : (53 : Int) + 971 ≤ log2Floor num den := by
      unfold place minExponent at hplace
      omega
    calc ((2 : ℚ) ^ 53 - 1 / 2) * 2 ^ (971 : Int) ≤ 2 ^ (53 : Int) * 2 ^ (971 : Int) := by
          gcongr
          norm_num
      _ = 2 ^ ((53 : Int) + 971) := (zpow_add₀ (by norm_num) _ _).symm
      _ ≤ 2 ^ log2Floor num den := zpow_le_zpow_right₀ (by norm_num) hlog
      _ ≤ num / den := (log2Floor_spec hnum hden).1
  · have herror := abs_units_mul_sub_le num hden
    rw [hplace, hunits, cast_twoTo] at herror
    linarith [(abs_le.mp herror).2]

/-- What is rounded to a magnitude is at most half a place beyond the greatest one. -/
theorem le_of_nearest_eq_some {x : Magnitude} (hden : 0 < den) (h : nearest num den = some x) :
    (num : ℚ) / den ≤ threshold := by
  unfold threshold
  rcases Nat.eq_zero_or_pos num with rfl | hnum
  · rw [Nat.cast_zero, zero_div]
    positivity
  have hbound : (num : ℚ) / den ≤ (units num den + 1 / 2) * 2 ^ place num den := by
    linarith [(abs_le.mp (abs_units_mul_sub_le num hden)).1]
  refine hbound.trans ?_
  have hsome : nearest num den ≠ none := by
    rw [h]
    exact Option.some_ne_none x
  rw [ne_eq, nearest_eq_none_iff hnum, not_or, not_lt, not_and] at hsome
  obtain ⟨hplace, hcarry⟩ := hsome
  have hunits := units_le hnum hden
  -- In a smaller place a carry still leaves the magnitude in range; in the last place there is
  -- none.
  rcases hplace.lt_or_eq with hlt | heq
  · have hcast : (units num den : ℚ) ≤ 2 ^ 53 := by
      rw [← cast_twoTo]
      exact_mod_cast hunits
    calc ((units num den : ℚ) + 1 / 2) * 2 ^ place num den
      _ ≤ (2 ^ 53 + 1 / 2) * 2 ^ (970 : Int) := by
          gcongr
          · norm_num
          · omega
      _ ≤ (2 ^ 53 - 1 / 2) * 2 * 2 ^ (970 : Int) := by
          gcongr
          norm_num
      _ = (2 ^ 53 - 1 / 2) * 2 ^ (971 : Int) := by
          rw [show (971 : Int) = 970 + 1 from rfl, zpow_add_one₀ (by norm_num)]
          ring
  · have hlt : units num den + 1 ≤ twoTo 53 := by
      have := hcarry heq
      omega
    have hcast : (units num den : ℚ) + 1 ≤ 2 ^ 53 := by
      rw [← cast_twoTo]
      exact_mod_cast hlt
    rw [heq]
    gcongr
    linarith

end Nearest

/-! ## 5. Natural numbers, products and quotients -/

/-- The error of rounding a natural number, as a part of the number. -/
theorem abs_value_ofNat_sub_le {n : Nat} {x : Magnitude} (h : ofNat n = some x) :
    |x.value - n| ≤ n * roundoff := by
  rcases Nat.eq_zero_or_pos n with rfl | hn
  · obtain rfl : zero = x := by simpa [ofNat, nearest] using h
    simp [value, zero]
  · have herror := abs_value_sub_le Nat.one_pos h
    rw [Nat.cast_one, div_one] at herror
    have hone : (1 : ℚ) ≤ n := by exact_mod_cast hn
    have hunderflow : underflow ≤ n * roundoff :=
      underflow_le_roundoff.trans (le_mul_of_one_le_left roundoff_pos.le hone)
    rwa [max_eq_right hunderflow] at herror

section Arithmetic

variable {x y z : Magnitude}

/-- The fraction that a product is computed with. -/
theorem product_eq (x y : Magnitude) :
    ((x.numerator * y.numerator : Nat) : ℚ) / ((x.denominator * y.denominator : Nat) : ℚ) =
      x.value * y.value := by
  rw [← numerator_div_denominator x, ← numerator_div_denominator y, Nat.cast_mul, Nat.cast_mul,
    div_mul_div_comm]

/-- The fraction that a quotient is computed with. -/
theorem quotient_eq (x y : Magnitude) :
    ((x.numerator * y.denominator : Nat) : ℚ) / ((x.denominator * y.numerator : Nat) : ℚ) =
      x.value / y.value := by
  rw [← numerator_div_denominator x, ← numerator_div_denominator y, Nat.cast_mul, Nat.cast_mul,
    div_div_div_eq]

/-- A product that is out of range reaches the threshold. -/
theorem le_of_mul_eq_none (h : x.mul y = none) : threshold ≤ x.value * y.value := by
  rw [← product_eq]
  exact le_of_nearest_eq_none (Nat.mul_pos x.denominator_pos y.denominator_pos) h

/-- A product that is in range does not pass it. -/
theorem le_of_mul_eq_some (h : x.mul y = some z) : x.value * y.value ≤ threshold := by
  rw [← product_eq]
  exact le_of_nearest_eq_some (Nat.mul_pos x.denominator_pos y.denominator_pos) h

/-- What stands for a positive number can be divided by. -/
theorem numerator_pos (h : 0 < x.value) : 0 < x.numerator := by
  refine Nat.pos_of_ne_zero fun hzero => ?_
  rw [← numerator_div_denominator, hzero, Nat.cast_zero, zero_div] at h
  exact h.false

/-- A quotient that is out of range reaches the threshold. -/
theorem le_of_div_eq_none (hy : 0 < y.value) (h : x.div y = none) :
    threshold ≤ x.value / y.value := by
  rw [← quotient_eq]
  exact le_of_nearest_eq_none (Nat.mul_pos x.denominator_pos (numerator_pos hy)) h

/-- A rounded quotient is at most twice the quotient, or one. -/
theorem value_div_le (hy : 0 < y.value) (h : x.div y = some z) :
    z.value ≤ 2 * (x.value / y.value) + 1 := by
  have herror := abs_value_sub_le (Nat.mul_pos x.denominator_pos (numerator_pos hy)) h
  rw [quotient_eq] at herror
  have hnonneg : 0 ≤ x.value / y.value := div_nonneg x.value_nonneg y.value_nonneg
  have hpart : x.value / y.value * roundoff ≤ x.value / y.value :=
    mul_le_of_le_one_right hnonneg roundoff_le_one
  have hmax : max underflow (x.value / y.value * roundoff) ≤ 1 + x.value / y.value :=
    max_le (by linarith [underflow_le_roundoff, roundoff_le_one]) (by linarith)
  linarith [(abs_le.mp herror).2]

end Arithmetic

end Magnitude

end ShopQuery
