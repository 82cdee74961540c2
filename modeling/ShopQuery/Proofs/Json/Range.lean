import ShopQuery.Proofs.Json.Numeral
import ShopQuery.Proofs.Number.Rounding

/-!
# Which numbers are in range

`Literal.value` is the number that a literal stands for, exactly. Its significand and its power of
ten are both rounded before they are multiplied, so that the literals near the greatest magnitude
may be taken or refused. Away from it the answer is certain: nothing below `2 ^ 1024 - 2 ^ 973` is
refused (`le_magnitude_of_eq_none`), and nothing from `2 ^ 1024 + 2 ^ 973` on is taken
(`magnitude_lt_of_eq_some`), unless the exponent itself has too many digits.

## How the proof goes

A literal is read in three roundings: its digits to a significand of 64 bits, that to a magnitude
with 53 bits, and the product with a power of ten, itself a magnitude, to a magnitude again. The
errors are gone through in that order.

1. Digits that do not fit are left out. `Approximates` says how much that can be: less than ten
units of the last digit that was taken, on a significand of at least `10 ^ 18`; so the literal
stands for what is taken or for more by one part in `10 ^ 17` at most (`taken_bounds`). 2.
Significand and power of ten are off by half a place each, relative to themselves
(`exists_ofNat_significand`, `abs_value_powerOfTen_sub_le`); so their product is off by a factor
between `(1 - roundoff) ^ 2` and `(1 + roundoff) ^ 2` (`scaled_product_bounds`). 3. The product is
out of range where it reaches `threshold`, which lies half a place above the greatest magnitude
(`le_of_mul_eq_none`, `le_of_mul_eq_some`).

The limits of the statement are four places away from `2 ^ 1024` (`low_limit`, `high_limit`). That
is enough for the three errors together, which is a calculation with numbers of 53 bits (`hunits`).

Negative powers of ten are divided by, and a quotient of what was in range is in range
(`scale_of_neg_ne_none`). This is the only induction on the steps of scaling, since an exponent that
is too small is worked off 308 at a time.

## The two exceptions

An exponent whose digits pass `2 ^ 31 - 1` is not read any further. The literal is then out of range
or zero, by the sign of the exponent, however many zeros its digits have; so `magnitude?_cases` has
such exponents apart, on both sides. A significand of zero is zero with any exponent, so a literal
that is refused for its exponent has a digit that is none (`mantissa_ne_zero`).
-/

namespace ShopQuery.Json

open Magnitude

/-! ## 1. Powers of ten -/

/-- A power of ten is one of the rational numbers, too. -/
theorem cast_tenTo (k : Nat) : (tenTo k : ℚ) = 10 ^ k := by
  unfold tenTo
  exact Nat.cast_pow 10 k

/-- A rounded natural number, and the error as a part of it. -/
theorem exists_ofNat {n : Nat} (h : (n : ℚ) < threshold) :
    ∃ x, ofNat n = some x ∧ |x.value - n| ≤ n * roundoff := by
  cases hround : ofNat n with
  | some x => exact ⟨x, rfl, abs_value_ofNat_sub_le hround⟩
  | none =>
    have hle := le_of_nearest_eq_none Nat.one_pos hround
    rw [Nat.cast_one, div_one] at hle
    exact absurd h (not_lt.mpr hle)

/-- What is smaller than this fits. -/
theorem lt_threshold_of_le {n : Nat} (h : n ≤ (twoTo 53 - 1) * twoTo 971) :
    (n : ℚ) < threshold := by
  have hcast : (n : ℚ) ≤ (twoTo 53 - 1) * twoTo 971 := by
    have hone : 1 ≤ twoTo 53 := twoTo_pos 53
    exact_mod_cast h
  rw [cast_twoTo, cast_twoTo] at hcast
  unfold threshold
  rw [show (971 : Int) = (971 : Nat) from rfl, zpow_natCast]
  refine hcast.trans_lt (mul_lt_mul_of_pos_right ?_ (by positivity))
  norm_num

/-- A significand that fits its 64 bits is rounded, never out of range. -/
theorem exists_ofNat_significand {n : Nat} (h : n ≤ maxSignificand) :
    ∃ x, ofNat n = some x ∧ |x.value - n| ≤ n * roundoff :=
  exists_ofNat (lt_threshold_of_le (h.trans (by decide +kernel)))

/-- The powers of ten that are multiplied with fit. -/
theorem tenTo_le {n : Nat} (hn : n ≤ 308) : tenTo n ≤ (twoTo 53 - 1) * twoTo 971 :=
  (Nat.pow_le_pow_right (by decide) hn).trans (by decide +kernel)

/-- The error of a rounded power of ten. -/
theorem abs_value_powerOfTen_sub_le {n : Nat} (hn : n ≤ 308) :
    |(powerOfTen n).value - 10 ^ n| ≤ 10 ^ n * roundoff := by
  obtain ⟨x, hround, herror⟩ := exists_ofNat (lt_threshold_of_le (tenTo_le hn))
  rw [cast_tenTo] at herror
  rwa [powerOfTen, hround, Option.getD_some]

/-! ## 2. Scaling -/

section Scaling

variable {x : Magnitude} {exponent : Int}

-- The branches are taken by `if_pos` and `if_neg`: rewriting by the equations of `scale` would
-- compute the greatest power of ten.

/-- A power of ten that there is, is multiplied with. -/
theorem scale_of_nonneg (hlow : 0 ≤ exponent) (hhigh : exponent ≤ 308) (steps : Nat) :
    scale x exponent (steps + 1) = x.mul (powerOfTen exponent.toNat) := if_pos ⟨hlow, hhigh⟩

/-- A greater one leaves zero alone and puts all else out of range. -/
theorem scale_of_gt (h : 308 < exponent) (steps : Nat) :
    scale x exponent (steps + 1) = if x.mantissa = 0 then some x else none := by
  have hpos : ¬ (0 ≤ exponent ∧ exponent ≤ 308) := by omega
  have hneg : ¬ (-308 ≤ exponent ∧ exponent < 0) := by omega
  have hup : 0 ≤ exponent := by omega
  refine (if_neg hpos).trans ((if_neg hneg).trans ?_)
  by_cases hx : x.mantissa = 0
  · exact (if_pos hx).trans (if_pos hx).symm
  · exact (if_neg hx).trans ((if_pos hup).trans (if_neg hx).symm)

/-- A negative power of ten that there is, is divided by. -/
theorem scale_of_neg (hlow : -308 ≤ exponent) (hhigh : exponent < 0) (steps : Nat) :
    scale x exponent (steps + 1) = x.div (powerOfTen (-exponent).toNat) := by
  have hpos : ¬ (0 ≤ exponent ∧ exponent ≤ 308) := by omega
  exact (if_neg hpos).trans (if_pos ⟨hlow, hhigh⟩)

/-- A smaller one is worked off in steps. -/
theorem scale_of_lt {y : Magnitude} (h : exponent < -308)
    (hdiv : x.div (powerOfTen 308) = some y) (steps : Nat) :
    scale x exponent (steps + 1) =
      if x.mantissa = 0 then some x else scale y (exponent + 308) steps := by
  have hpos : ¬ (0 ≤ exponent ∧ exponent ≤ 308) := by omega
  have hneg : ¬ (-308 ≤ exponent ∧ exponent < 0) := by omega
  have hdown : ¬ 0 ≤ exponent := by omega
  refine (if_neg hpos).trans ((if_neg hneg).trans ?_)
  by_cases hx : x.mantissa = 0
  · exact (if_pos hx).trans (if_pos hx).symm
  · refine (if_neg hx).trans ((if_neg hdown).trans (Eq.trans ?_ (if_neg hx).symm))
    rw [hdiv]

/-- Powers of ten are at least eight, but for the first. -/
theorem eight_le_powerOfTen {n : Nat} (hpos : 0 < n) (hn : n ≤ 308) : 8 ≤ (powerOfTen n).value := by
  have herror := abs_value_powerOfTen_sub_le hn
  have hten : (10 : ℚ) ≤ 10 ^ n := le_self_pow₀ (by norm_num) hpos.ne'
  have hpart : (10 : ℚ) ^ n * roundoff ≤ 10 ^ n * (1 / 5) := by
    gcongr
    exact roundoff_le_fifth
  linarith [(abs_le.mp herror).1]

/-- A small magnitude divided by a power of ten is still small. -/
theorem exists_div_powerOfTen {n : Nat} (hpos : 0 < n) (hn : n ≤ 308) (hx : x.value ≤ 2 ^ 65) :
    ∃ y, x.div (powerOfTen n) = some y ∧ y.value ≤ 2 ^ 65 := by
  have height := eight_le_powerOfTen hpos hn
  have hquotient : x.value / (powerOfTen n).value ≤ 2 ^ 62 := by
    rw [div_le_iff₀ (by linarith)]
    calc x.value ≤ 2 ^ 62 * 8 := hx.trans (by norm_num)
      _ ≤ _ := by gcongr
  cases hdiv : x.div (powerOfTen n) with
  | some y =>
    have hle := value_div_le (by linarith) hdiv
    exact ⟨y, rfl, by linarith⟩
  | none =>
    have hle := le_of_div_eq_none (by linarith) hdiv
    have hthreshold : (2 : ℚ) ^ 62 < threshold := by
      have hlt : ((twoTo 62 : Nat) : ℚ) < threshold := lt_threshold_of_le (by decide +kernel)
      rwa [cast_twoTo] at hlt
    exact absurd hthreshold (not_lt.mpr (hle.trans hquotient))

/-- Taking powers of ten off never leaves the range. -/
theorem scale_of_neg_ne_none (h : exponent < 0) (hx : x.value ≤ 2 ^ 65) (steps : Nat) :
    scale x exponent steps ≠ none := by
  induction steps generalizing x exponent with
  | zero => exact Option.some_ne_none _
  | succ steps ih =>
    by_cases hlast : -308 ≤ exponent
    · have hpos : 0 < (-exponent).toNat := by omega
      obtain ⟨y, hdiv, -⟩ := exists_div_powerOfTen hpos (by omega) hx
      rw [scale_of_neg hlast h, hdiv]
      exact Option.some_ne_none y
    · obtain ⟨y, hdiv, hy⟩ := exists_div_powerOfTen (by decide) (Nat.le_refl 308) hx
      rw [scale_of_lt (by omega) hdiv]
      split
      · exact Option.some_ne_none x
      · exact ih (by omega) hy

/-! ## 3. Significands -/

/-- Only zero is rounded to zero. -/
theorem mantissa_eq_zero_iff {n : Nat} (h : |x.value - n| ≤ n * roundoff) :
    x.mantissa = 0 ↔ n = 0 := by
  constructor
  · intro hx
    have hvalue : x.value = 0 := by rw [value, hx, Nat.cast_zero, zero_mul]
    rw [hvalue] at h
    by_contra hn
    have hpos : (0 : ℚ) < n := by exact_mod_cast Nat.pos_of_ne_zero hn
    have hpart : (n : ℚ) * roundoff ≤ n * (1 / 5) := by
      gcongr
      exact roundoff_le_fifth
    linarith [(abs_le.mp h).1]
  · rintro rfl
    rw [Nat.cast_zero, zero_mul, sub_zero, abs_le] at h
    have hvalue : x.value = 0 := by linarith [h.1, h.2]
    unfold value at hvalue
    have hpow : (2 : ℚ) ^ x.exponent ≠ 0 := by positivity
    exact_mod_cast (mul_eq_zero.mp hvalue).resolve_right hpow

end Scaling

/-! ## 4. Scaled significands -/

section Limits

variable {significand : Nat} {exponent : Int}

/-- Below this no number is refused. -/
theorem low_limit : (2 : ℚ) ^ 1024 - 2 ^ 973 = (2 ^ 53 - 4) * 2 ^ (971 : Int) := by
  rw [show (1024 : Nat) = 53 + 971 from rfl, show (973 : Nat) = 2 + 971 from rfl, pow_add,
    pow_add, show (971 : Int) = (971 : Nat) from rfl, zpow_natCast]
  generalize (2 : ℚ) ^ 971 = unit
  ring

/-- From this on every number is refused. -/
theorem high_limit : (2 : ℚ) ^ 1024 + 2 ^ 973 = (2 ^ 53 + 4) * 2 ^ (971 : Int) := by
  rw [show (1024 : Nat) = 53 + 971 from rfl, show (973 : Nat) = 2 + 971 from rfl, pow_add,
    pow_add, show (971 : Int) = (971 : Nat) from rfl, zpow_natCast]
  generalize (2 : ℚ) ^ 971 = unit
  ring

/-- A product of two rounded numbers is off by two roundings. -/
theorem product_bounds {a b x y : ℚ} (ha : 0 ≤ a) (hb : 0 ≤ b) (hx : |x - a| ≤ a * roundoff)
    (hy : |y - b| ≤ b * roundoff) :
    a * b * (1 - roundoff) ^ 2 ≤ x * y ∧ x * y ≤ a * b * (1 + roundoff) ^ 2 := by
  have hone := roundoff_le_one
  rw [abs_le] at hx hy
  have hxLow : a * (1 - roundoff) ≤ x := by linarith
  have hyLow : b * (1 - roundoff) ≤ y := by linarith
  have hxHigh : x ≤ a * (1 + roundoff) := by linarith
  have hyHigh : y ≤ b * (1 + roundoff) := by linarith
  have haPart : 0 ≤ a * (1 - roundoff) := mul_nonneg ha (by linarith)
  have hbPart : 0 ≤ b * (1 - roundoff) := mul_nonneg hb (by linarith)
  constructor
  · calc a * b * (1 - roundoff) ^ 2 = a * (1 - roundoff) * (b * (1 - roundoff)) := by ring
      _ ≤ x * y := mul_le_mul hxLow hyLow hbPart (by linarith)
  · calc x * y ≤ a * (1 + roundoff) * (b * (1 + roundoff)) :=
          mul_le_mul hxHigh hyHigh (by linarith) (by linarith)
      _ = a * b * (1 + roundoff) ^ 2 := by ring

/-- The rounded significand times the rounded power of ten. -/
theorem scaled_product_bounds {x : Magnitude}
    (hx : |x.value - significand| ≤ significand * roundoff) (hlow : 0 ≤ exponent)
    (hhigh : exponent ≤ 308) :
    (significand : ℚ) * 10 ^ exponent * (1 - roundoff) ^ 2 ≤
        x.value * (powerOfTen exponent.toNat).value ∧
      x.value * (powerOfTen exponent.toNat).value ≤
        (significand : ℚ) * 10 ^ exponent * (1 + roundoff) ^ 2 := by
  have hpower := abs_value_powerOfTen_sub_le (show exponent.toNat ≤ 308 by omega)
  have hbounds := product_bounds (Nat.cast_nonneg significand) (by positivity) hx hpower
  rwa [← zpow_natCast, Int.toNat_of_nonneg hlow] at hbounds

/-- A significand has 64 bits. -/
theorem cast_significand_le (hs : significand ≤ maxSignificand) : (significand : ℚ) ≤ 2 ^ 64 := by
  rw [← cast_twoTo]
  exact_mod_cast hs.trans (Nat.sub_le _ _)

/-- A rounded significand has one bit more at most. -/
theorem value_significand_le {x : Magnitude} (hs : significand ≤ maxSignificand)
    (hx : |x.value - significand| ≤ significand * roundoff) : x.value ≤ 2 ^ 65 := by
  have hcast := cast_significand_le hs
  have hpart : (significand : ℚ) * roundoff ≤ significand :=
    mul_le_of_le_one_right (Nat.cast_nonneg _) roundoff_le_one
  linarith [(abs_le.mp hx).2]

/-- What is refused is above the low limit. -/
theorem le_of_magnitudeOf_eq_none (hs : significand ≤ maxSignificand)
    (h : magnitudeOf significand exponent = none) :
    (2 : ℚ) ^ 1024 - 2 ^ 973 ≤ significand * 10 ^ exponent := by
  obtain ⟨x, hround, herror⟩ := exists_ofNat_significand hs
  have hscale : scale x exponent 4 = none := by
    unfold magnitudeOf at h
    rwa [hround] at h
  -- Three ranges of exponents: below zero nothing overflows, up to 308 the power of ten is that of
  -- the table, and beyond everything but zero is refused.
  rcases lt_or_ge exponent 0 with hneg | hlow
  · exact absurd hscale (scale_of_neg_ne_none hneg (value_significand_le hs herror) 4)
  rcases le_or_gt exponent 308 with hhigh | hgreat
  · rw [scale_of_nonneg hlow hhigh] at hscale
    have hproduct := (le_of_mul_eq_none hscale).trans (scaled_product_bounds herror hlow hhigh).2
    -- Two roundings can lift a product by this factor at most, which is not enough from below the
    -- limit.
    by_contra hlt
    rw [not_le, low_limit] at hlt
    have hpos : (0 : ℚ) < (1 + roundoff) ^ 2 := pow_pos (by linarith [roundoff_pos]) 2
    refine absurd hproduct (not_le.mpr ((mul_lt_mul_of_pos_right hlt hpos).trans_le ?_))
    have hunits : ((2 : ℚ) ^ 53 - 4) * (1 + roundoff) ^ 2 ≤ 2 ^ 53 - 1 / 2 := by
      unfold roundoff
      norm_num
    rw [mul_right_comm]
    exact mul_le_mul_of_nonneg_right hunits (by positivity)
  · rw [scale_of_gt hgreat] at hscale
    have hmantissa : x.mantissa ≠ 0 := by
      intro hzero
      rw [if_pos hzero] at hscale
      cases hscale
    have hone : (1 : ℚ) ≤ significand := by
      exact_mod_cast Nat.one_le_iff_ne_zero.mpr fun hzero =>
        hmantissa ((mantissa_eq_zero_iff herror).mpr hzero)
    have hpower : (10 : ℚ) ^ (309 : Int) ≤ 10 ^ exponent :=
      zpow_le_zpow_right₀ (by norm_num) (by omega)
    have hlimit : (2 : ℚ) ^ 1024 ≤ 10 ^ (309 : Int) := by
      have hnat : twoTo 1024 ≤ tenTo 309 := by decide +kernel
      have hcast : ((twoTo 1024 : Nat) : ℚ) ≤ (tenTo 309 : Nat) := by exact_mod_cast hnat
      rwa [cast_twoTo, cast_tenTo] at hcast
    calc (2 : ℚ) ^ 1024 - 2 ^ 973 ≤ 2 ^ 1024 := sub_le_self _ (by positivity)
      _ ≤ 10 ^ (309 : Int) := hlimit
      _ ≤ 10 ^ exponent := hpower
      _ ≤ significand * 10 ^ exponent := le_mul_of_one_le_left (by positivity) hone

/-- What is taken is below the high limit, even if it is a little more than was read of it. -/
theorem magnitudeOf_lt_of_eq_some {y : Magnitude} (hs : significand ≤ maxSignificand)
    (h : magnitudeOf significand exponent = some y) :
    (significand : ℚ) * 10 ^ exponent * (1 + 1 / 10 ^ 17) < 2 ^ 1024 + 2 ^ 973 := by
  obtain ⟨x, hround, herror⟩ := exists_ofNat_significand hs
  have hscale : scale x exponent 4 = some y := by
    unfold magnitudeOf at h
    rwa [hround] at h
  rw [high_limit]
  -- The same three ranges. Scaled down, a significand of 64 bits is far below the limit.
  rcases lt_or_ge exponent 0 with hneg | hlow
  · have hpower : (10 : ℚ) ^ exponent ≤ 1 := zpow_le_one_of_nonpos₀ (by norm_num) hneg.le
    calc (significand : ℚ) * 10 ^ exponent * (1 + 1 / 10 ^ 17)
      _ ≤ 2 ^ 64 * 1 * (1 + 1 / 10 ^ 17) := by
          gcongr
          exact cast_significand_le hs
      _ < (2 ^ 53 + 4) * 2 ^ (12 : Int) := by norm_num
      _ ≤ (2 ^ 53 + 4) * 2 ^ (971 : Int) := by
          gcongr
          · norm_num
          · norm_num
  rcases le_or_gt exponent 308 with hhigh | hgreat
  · rw [scale_of_nonneg hlow hhigh] at hscale
    have hproduct := (scaled_product_bounds herror hlow hhigh).1.trans (le_of_mul_eq_some hscale)
    have hpos : (0 : ℚ) < (1 - roundoff) ^ 2 := pow_pos (by linarith [roundoff_le_fifth]) 2
    refine lt_of_mul_lt_mul_right ?_ hpos.le
    -- Between the threshold and the limit there is room for two roundings and for the digits that
    -- were left out.
    have hunits : ((2 : ℚ) ^ 53 - 1 / 2) * (1 + 1 / 10 ^ 17) <
        (2 ^ 53 + 4) * (1 - roundoff) ^ 2 := by
      unfold roundoff
      norm_num
    calc (significand : ℚ) * 10 ^ exponent * (1 + 1 / 10 ^ 17) * (1 - roundoff) ^ 2 =
          significand * 10 ^ exponent * (1 - roundoff) ^ 2 * (1 + 1 / 10 ^ 17) := by ring
      _ ≤ threshold * (1 + 1 / 10 ^ 17) := by gcongr
      _ = (2 ^ 53 - 1 / 2) * (1 + 1 / 10 ^ 17) * 2 ^ (971 : Int) := by
          rw [threshold, mul_right_comm]
      _ < (2 ^ 53 + 4) * (1 - roundoff) ^ 2 * 2 ^ (971 : Int) := by gcongr
      _ = (2 ^ 53 + 4) * 2 ^ (971 : Int) * (1 - roundoff) ^ 2 := mul_right_comm _ _ _
  · rw [scale_of_gt hgreat] at hscale
    have hzero : significand = 0 := by
      refine (mantissa_eq_zero_iff herror).mp ?_
      by_contra hmantissa
      rw [if_neg hmantissa] at hscale
      cases hscale
    rw [hzero, Nat.cast_zero, zero_mul, zero_mul]
    have hunits : (0 : ℚ) < 2 ^ 53 + 4 := by norm_num
    positivity

end Limits

/-! ## 5. Digits that are left out -/

/-- A significand with a power of ten stands for a number, or for a little less than that where
digits are left out. -/
structure Approximates (significand power number : Nat) : Prop where
  fits : significand ≤ maxSignificand
  le : significand * tenTo power ≤ number
  close : number = significand * tenTo power ∨
    tenTo 18 ≤ significand ∧ number ≤ (significand + 10) * tenTo power

/-- What digits are worth, by those that stand first. -/
theorem decimalNumber_append_bounds (ds : List Char) {es : List Char}
    (hes : ∀ e ∈ es, e.isDigit = true) :
    decimalNumber ds * tenTo es.length ≤ decimalNumber (ds ++ es) ∧
      decimalNumber (ds ++ es) ≤ (decimalNumber ds + 1) * tenTo es.length := by
  have hlt := decimalNumber_lt hes
  rw [decimalNumber_append, Nat.add_mul, Nat.one_mul]
  omega

/-- The first digit that does not fit shows that the significand is great. -/
theorem tenTo_le_of_lt {significand : Nat} {d : Char} (hd : d.isDigit = true)
    (h : maxSignificand < significand * 10 + digitValue d) : tenTo 18 ≤ significand := by
  have hvalue := digitValue_lt hd
  have hmax : maxSignificand = 18446744073709551615 := rfl
  have hten : tenTo 18 = 1000000000000000000 := rfl
  omega

/-- Digits of which only the first ones are taken. -/
theorem approximates_append {ds es : List Char} (hfits : decimalNumber ds ≤ maxSignificand)
    (hes : ∀ e ∈ es, e.isDigit = true)
    (hleft : ∀ e ∈ es.head?, maxSignificand < decimalNumber ds * 10 + digitValue e) :
    Approximates (decimalNumber ds) es.length (decimalNumber (ds ++ es)) := by
  obtain ⟨hlow, hhigh⟩ := decimalNumber_append_bounds ds hes
  refine ⟨hfits, hlow, ?_⟩
  cases es with
  | nil => exact Or.inl (by simp [tenTo])
  | cons e es =>
    refine Or.inr ⟨tenTo_le_of_lt (hes e List.mem_cons_self) (hleft e rfl), hhigh.trans ?_⟩
    exact Nat.mul_le_mul_right _ (by omega)

/-- A digit of the fraction may be taken where one in front of the point did not fit; then it stands
for the latter. -/
theorem approximates_other_digit {ds es : List Char} {c d : Char} (hc : c.isDigit = true)
    (hes : ∀ e ∈ es, e.isDigit = true)
    (hleft : maxSignificand < decimalNumber ds * 10 + digitValue c)
    (hfits : decimalNumber (ds ++ [d]) ≤ maxSignificand) :
    Approximates (decimalNumber (ds ++ [d])) es.length (decimalNumber (ds ++ c :: es)) := by
  have hbounds := decimalNumber_append_bounds (ds ++ [c]) hes
  rw [List.append_assoc, List.singleton_append, decimalNumber_append_digit] at hbounds
  have hclt := digitValue_lt hc
  have hgreat := tenTo_le_of_lt hc hleft
  rw [decimalNumber_append_digit] at hfits ⊢
  refine ⟨hfits, ?_, Or.inr ⟨by omega, ?_⟩⟩
  · exact (Nat.mul_le_mul_right _ (by omega)).trans hbounds.1
  · exact hbounds.2.trans (Nat.mul_le_mul_right _ (by omega))

/-- Only one digit can be taken after one that did not fit. -/
theorem eq_nil_of_fits {ds es : List Char} {c d : Char} (hc : c.isDigit = true)
    (hleft : maxSignificand < decimalNumber ds * 10 + digitValue c)
    (hfits : decimalNumber (ds ++ d :: es) ≤ maxSignificand) : es = [] := by
  cases es with
  | nil => rfl
  | cons e es =>
    have hle : decimalNumber (ds ++ [d] ++ [e]) ≤ decimalNumber (ds ++ d :: e :: es) := by
      rw [show ds ++ d :: e :: es = ds ++ [d] ++ [e] ++ es by simp,
        decimalNumber_eq_ofDigitChars (_ ++ es), Nat.ofDigitChars_append,
        ← decimalNumber_eq_ofDigitChars]
      exact le_ofDigitChars es _
    have hgreat := tenTo_le_of_lt hc hleft
    have hmax : maxSignificand = 18446744073709551615 := rfl
    have hten : tenTo 18 = 1000000000000000000 := rfl
    rw [decimalNumber_append_digit, decimalNumber_append_digit] at hle
    omega

/-- What is taken of the digits before a point and of those behind it stands for all of them. -/
theorem approximates_appendDigits {whole fraction : List Char}
    (hwhole : ∀ d ∈ whole, d.isDigit = true) (hfraction : ∀ d ∈ fraction, d.isDigit = true) :
    Approximates (appendDigits (appendDigits 0 whole).1 fraction).1
      ((appendDigits 0 whole).2 + (appendDigits (appendDigits 0 whole).1 fraction).2)
      (decimalNumber (whole ++ fraction)) := by
  obtain ⟨taken, left, rfl, hfits, happend, hleft⟩ :=
    exists_appendDigits (Nat.zero_le maxSignificand) whole
  rw [← decimalNumber_eq_ofDigitChars] at hfits happend hleft
  obtain ⟨taken', left', rfl, hfits', happend', hleft'⟩ := exists_appendDigits hfits fraction
  have hnumber : Nat.ofDigitChars 10 taken' (decimalNumber taken) =
      decimalNumber (taken ++ taken') := by
    rw [decimalNumber_eq_ofDigitChars, decimalNumber_eq_ofDigitChars, Nat.ofDigitChars_append]
  rw [hnumber] at hfits' happend' hleft'
  have hleftDigits : ∀ d ∈ left', d.isDigit = true := fun d hd => hfraction d (by simp [hd])
  rw [happend]
  dsimp only
  rw [happend']
  -- If a digit was left out before the point, the significand is full, but for one more digit.
  cases left with
  | nil =>
    rw [List.append_nil, ← List.append_assoc, List.length_nil, Nat.zero_add]
    exact approximates_append hfits' hleftDigits hleft'
  | cons c left =>
    have hc : c.isDigit = true := hwhole c (by simp)
    cases taken' with
    | nil =>
      have hdigits : ∀ d ∈ c :: left ++ left', d.isDigit = true := by
        simp only [List.mem_append] at hwhole ⊢
        exact fun d hd => hd.elim (fun hd => hwhole d (Or.inr hd)) (hleftDigits d)
      rw [List.append_nil, List.append_assoc, List.nil_append, ← List.length_append]
      exact approximates_append hfits hdigits hleft
    | cons d taken' =>
      -- A smaller digit behind the point may fit where one before it did not, and then no second
      -- one does.
      obtain rfl := eq_nil_of_fits hc (hleft c rfl) hfits'
      have hdigits : ∀ e ∈ left ++ d :: left', e.isDigit = true := by
        simp only [List.mem_append, List.mem_cons] at hwhole hfraction ⊢
        exact fun e he => he.elim (fun he => hwhole e (Or.inr (Or.inr he)))
          fun he => hfraction e (he.imp (fun h => by simp [h]) id)
      have hlength : (c :: left).length + left'.length = (left ++ d :: left').length := by
        simp only [List.length_cons, List.length_append]
        omega
      have happroximates := approximates_other_digit hc hdigits (hleft c rfl) hfits'
      rw [hlength, List.append_assoc, List.cons_append, List.singleton_append]
      exact happroximates

/-! ## 6. The value of a literal -/

namespace Literal

variable (L : Literal)

def exponentValue : Int :=
  match L.exponent with
  | none => 0
  | some e => e.value

/-- The number that the literal stands for, without its sign. -/
def magnitude : ℚ := L.mantissa * 10 ^ (L.exponentValue - L.fractionDigits.length)

/-- The number that the literal stands for. -/
def value : ℚ := if L.negative then -L.magnitude else L.magnitude

theorem fractionDigits_isDigit : ∀ d ∈ L.fractionDigits, d.isDigit = true := by
  unfold fractionDigits
  cases hfraction : L.fraction with
  | none => exact fun d hd => nomatch hd
  | some ds => exact (L.fraction_isDigits ds hfraction).digits

/-- What is read of the digits of a literal stands for them. -/
theorem exists_approximates : ∃ power : Nat,
    L.taken.2 = power - L.fractionDigits.length ∧ Approximates L.taken.1 power L.mantissa :=
  ⟨_, rfl, approximates_appendDigits L.whole_isDigits.digits L.fractionDigits_isDigit⟩

/-- The literal stands for what is read of it, or for a little more. -/
theorem taken_bounds :
    L.taken.1 * 10 ^ (L.taken.2 + L.exponentValue) ≤ L.magnitude ∧
      L.magnitude ≤ L.taken.1 * 10 ^ (L.taken.2 + L.exponentValue) * (1 + 1 / 10 ^ 17) := by
  obtain ⟨power, hpower, -, hle, hclose⟩ := L.exists_approximates
  -- Both bounds are those of the significand, scaled by one power of ten.
  have hsplit : (10 : ℚ) ^ (L.taken.2 + L.exponentValue) =
      (tenTo power : ℚ) * 10 ^ (L.exponentValue - L.fractionDigits.length) := by
    rw [cast_tenTo, ← zpow_natCast, ← zpow_add₀ (by norm_num), hpower]
    congr 1
    omega
  have hscale : (0 : ℚ) < 10 ^ (L.exponentValue - L.fractionDigits.length) := by positivity
  rw [hsplit, ← mul_assoc, magnitude]
  constructor
  · gcongr
    exact_mod_cast hle
  · rw [mul_right_comm]
    gcongr
    -- Digits are left out only behind eighteen others, so they add less than the last factor.
    rcases hclose with heq | ⟨hgreat, hle⟩
    · have hcast : (L.mantissa : ℚ) = L.taken.1 * tenTo power := by exact_mod_cast heq
      rw [hcast]
      exact le_mul_of_one_le_right (by positivity) (by norm_num)
    · have hcast : (L.mantissa : ℚ) ≤ (L.taken.1 + 10) * tenTo power := by exact_mod_cast hle
      have hten : (10 : ℚ) ^ 18 ≤ L.taken.1 := by
        rw [← cast_tenTo]
        exact_mod_cast hgreat
      refine hcast.trans ?_
      rw [mul_right_comm]
      gcongr
      linarith

/-- Where nothing is taken but zeros, the literal is zero. -/
theorem magnitude_eq_zero (h : L.taken.1 = 0) : L.magnitude = 0 := by
  have hbounds := L.taken_bounds
  rw [h, Nat.cast_zero, zero_mul, zero_mul] at hbounds
  exact le_antisymm hbounds.2 hbounds.1

/-- A zero is read as a zero. -/
theorem mantissa_ne_zero (h : L.taken.1 ≠ 0) : L.mantissa ≠ 0 := by
  intro hzero
  have hbounds := L.taken_bounds
  rw [magnitude, hzero, Nat.cast_zero, zero_mul] at hbounds
  have hpositive : (0 : ℚ) < L.taken.1 * 10 ^ (L.taken.2 + L.exponentValue) := by positivity
  exact absurd hbounds.1 (not_le.mpr hpositive)

/-- What is taken fits. -/
theorem taken_le : L.taken.1 ≤ maxSignificand := by
  obtain ⟨_, -, happroximates⟩ := L.exists_approximates
  exact happroximates.fits

/-- Where the exponent can be read, it is added to that of the significand. -/
theorem magnitude?_cases :
    L.magnitude? = magnitudeOf L.taken.1 (L.taken.2 + L.exponentValue) ∨
      (maxExponent < L.exponentValue ∧ (L.taken.1 ≠ 0 ∧ L.magnitude? = none ∨
        L.taken.1 = 0 ∧ L.magnitude? = some .zero)) ∨
      (L.exponentValue < -maxExponent ∧ L.magnitude? = some .zero) := by
  cases hexponent : L.exponent with
  | none =>
    rw [magnitude?, exponentValue, hexponent, scaled, Int.add_zero]
    exact Or.inl rfl
  | some e =>
    have hvalue : L.exponentValue = e.value := by rw [exponentValue, hexponent]
    rw [magnitude?, hvalue, hexponent, scaled]
    -- Of an exponent that is not read, its sign and whether the significand is zero decide.
    by_cases hread : e.number ≤ maxExponent
    · exact Or.inl (if_pos hread)
    rw [if_neg hread]
    unfold Exponent.value
    by_cases hsign : e.sign = .minus
    · rw [if_pos hsign]
      exact Or.inr (Or.inr ⟨by omega, if_pos (Or.inr hsign)⟩)
    · rw [if_neg hsign]
      refine Or.inr (Or.inl ⟨by omega, ?_⟩)
      by_cases hzero : L.taken.1 = 0
      · exact Or.inr ⟨hzero, if_pos (Or.inl hzero)⟩
      · exact Or.inl ⟨hzero, if_neg (not_or.mpr ⟨hzero, hsign⟩)⟩

/-- **What is refused is great, in its value or in its exponent.** A zero is never refused. -/
theorem le_magnitude_of_eq_none (h : L.magnitude? = none) :
    2 ^ 1024 - 2 ^ 973 ≤ L.magnitude ∨
      ((maxExponent : Int) < L.exponentValue ∧ L.mantissa ≠ 0) := by
  rcases L.magnitude?_cases with hread | ⟨hgreat, ⟨hne, -⟩ | ⟨-, hzero⟩⟩ | ⟨-, hzero⟩
  · rw [hread] at h
    exact Or.inl ((le_of_magnitudeOf_eq_none L.taken_le h).trans L.taken_bounds.1)
  · exact Or.inr ⟨hgreat, L.mantissa_ne_zero hne⟩
  · rw [hzero] at h
    cases h
  · rw [hzero] at h
    cases h

/-- **What is taken is not great, unless its exponent makes it zero.** -/
theorem magnitude_lt_of_eq_some {x : Magnitude} (h : L.magnitude? = some x) :
    L.magnitude < 2 ^ 1024 + 2 ^ 973 ∨ L.exponentValue < -maxExponent := by
  rcases L.magnitude?_cases with hread | ⟨-, ⟨-, hnone⟩ | ⟨hzero, -⟩⟩ | ⟨hless, -⟩
  · rw [hread] at h
    exact Or.inl (L.taken_bounds.2.trans_lt (magnitudeOf_lt_of_eq_some L.taken_le h))
  · rw [hnone] at h
    cases h
  · rw [L.magnitude_eq_zero hzero]
    exact Or.inl (by positivity)
  · exact Or.inr hless

/-! ## 7. Integers -/

/-- The literal is an integer: it has neither fraction nor exponent, and it is not minus zero. -/
structure IsInteger (n : Int) : Prop where
  fraction_eq : L.fraction = none
  exponent_eq : L.exponent = none
  text_ne : L.text ≠ ['-', '0']
  value_eq : L.value = n

/-- Without a fraction, zero is written in one way only. -/
theorem mantissa_eq_zero_iff_whole (h : L.fraction = none) : L.mantissa = 0 ↔ L.whole = ['0'] := by
  rw [L.mantissa_of_fraction_eq_none h]
  constructor
  · intro hzero
    obtain ⟨c, ds, hcons, hc⟩ := L.whole_isDigits.exists_cons
    rw [hcons, decimalNumber_eq_ofDigitChars, ofDigitChars_cons, Nat.zero_mul,
      Nat.zero_add] at hzero
    have hfirst : digitValue c = digitValue '0' :=
      Nat.le_zero.mp (hzero ▸ le_ofDigitChars ds (digitValue c))
    have hhead : L.whole.head? = some '0' := by
      rw [hcons, eq_of_digitValue_eq hc (by decide) hfirst]
      rfl
    exact L.whole_head hhead
  · intro hwhole
    rw [hwhole]
    rfl

/-- Minus zero is the only negative literal that stands for zero. -/
theorem text_eq_minus_zero_iff (hfraction : L.fraction = none) (hexponent : L.exponent = none) :
    L.text = ['-', '0'] ↔ L.negative = true ∧ L.mantissa = 0 := by
  rw [L.mantissa_eq_zero_iff_whole hfraction, text, hfraction, hexponent, fractionText,
    exponentText, List.nil_append, List.append_nil]
  cases L.negative with
  | true => simp
  | false =>
    obtain ⟨c, ds, hcons, hc⟩ := L.whole_isDigits.exists_cons
    have hne : c ≠ '-' := by
      rintro rfl
      cases hc
    simp [hcons, hne]

/-- Without fraction and exponent the digits are the magnitude. -/
theorem magnitude_of_plain (hfraction : L.fraction = none) (hexponent : L.exponent = none) :
    L.magnitude = L.mantissa := by
  have hpower : L.exponentValue - L.fractionDigits.length = 0 := by
    rw [exponentValue, hexponent, fractionDigits, hfraction]
    rfl
  rw [magnitude, hpower, zpow_zero, mul_one]

/-- Without fraction and exponent, the literal is its sign and its digits. -/
theorem isInteger_iff_of_plain (hfraction : L.fraction = none) (hexponent : L.exponent = none)
    {n : Int} : L.IsInteger n ↔ ¬ (L.negative = true ∧ L.mantissa = 0) ∧
      n = if L.negative then -(L.mantissa : Int) else L.mantissa := by
  have hvalue : L.value = n ↔ n = if L.negative then -(L.mantissa : Int) else L.mantissa := by
    rw [value, L.magnitude_of_plain hfraction hexponent]
    split <;> rw [eq_comm] <;> norm_cast
  rw [← hvalue, ← L.text_eq_minus_zero_iff hfraction hexponent]
  exact ⟨fun h => ⟨h.text_ne, h.value_eq⟩, fun h => ⟨hfraction, hexponent, h.1, h.2⟩⟩

/-- **The integers among the literals.** -/
theorem integer?_eq_some_iff {n : Int} : L.integer? = some n ↔ L.IsInteger n ∧ FitsNumber n := by
  unfold integer?
  by_cases hplain : L.fraction = none ∧ L.exponent = none
  · obtain ⟨hfraction, hexponent⟩ := hplain
    have hmax : maxSignificand = 18446744073709551615 := rfl
    have htwo : twoTo 63 = 9223372036854775808 := rfl
    rw [L.isInteger_iff_of_plain hfraction hexponent, hfraction, hexponent, FitsNumber]
    cases L.negative with
    | true =>
      simp only [Option.isSome_none, Bool.or_self, Bool.false_eq_true, if_false, if_true, true_and,
        Bool.or_eq_true, decide_eq_true_eq]
      split <;> simp only [reduceCtorEq, Option.some.injEq, false_iff] <;> omega
    | false =>
      simp only [Option.isSome_none, Bool.or_self, Bool.false_eq_true, if_false, false_and,
        not_false_eq_true, true_and]
      split <;> simp only [reduceCtorEq, Option.some.injEq, false_iff] <;> omega
  · rw [not_and_or, ← ne_eq, ← ne_eq, Option.ne_none_iff_isSome, Option.ne_none_iff_isSome,
      ← Bool.or_eq_true] at hplain
    rw [if_pos hplain]
    constructor
    · intro hnone
      cases hnone
    · rintro ⟨hinteger, -⟩
      rw [hinteger.fraction_eq, hinteger.exponent_eq] at hplain
      cases hplain

/-! ## 8. Numbers -/

/-- **A literal is read as the integer that it is, if that fits, and no other literal as one.** -/
theorem number?_eq_integer_iff {n : Int} :
    L.number? = some (.integer n) ↔ L.IsInteger n ∧ FitsNumber n := by
  rw [← integer?_eq_some_iff, number?]
  cases L.integer? with
  | some m => simp
  | none => simp

/-- An integer of 64 bits is what it is written as. -/
theorem isInteger_ofInt {n : Int} (h : FitsNumber n) : (ofInt n).IsInteger n :=
  ((ofInt n).number?_eq_integer_iff.mp (number?_ofInt h)).1

/-- **A literal is refused for its greatness only.** -/
theorem le_magnitude_of_number?_eq_none (h : L.number? = none) :
    2 ^ 1024 - 2 ^ 973 ≤ L.magnitude ∨
      ((maxExponent : Int) < L.exponentValue ∧ L.mantissa ≠ 0) := by
  rw [number?] at h
  cases hinteger : L.integer? with
  | some n =>
    rw [hinteger] at h
    cases h
  | none =>
    rw [hinteger, Option.map_eq_none_iff] at h
    exact L.le_magnitude_of_eq_none h

/-- An integer of 64 bits is far below the limits. -/
theorem IsInteger.magnitude_le {n : Int} (h : L.IsInteger n) (hfits : FitsNumber n) :
    L.magnitude ≤ 2 ^ 64 := by
  have hvalue := h.value_eq
  have hlow : (-9223372036854775808 : ℚ) ≤ n := by exact_mod_cast hfits.1
  have hhigh : (n : ℚ) ≤ 18446744073709551615 := by exact_mod_cast hfits.2
  unfold value at hvalue
  split at hvalue <;> linarith

/-- **A literal that is read is not great, unless its exponent makes it zero.** -/
theorem magnitude_lt_of_number?_eq_some {number : Number} (h : L.number? = some number) :
    L.magnitude < 2 ^ 1024 + 2 ^ 973 ∨ L.exponentValue < -maxExponent := by
  rw [number?] at h
  cases hinteger : L.integer? with
  | some n =>
    obtain ⟨hn, hfits⟩ := L.integer?_eq_some_iff.mp hinteger
    have hpow : (2 : ℚ) ^ 64 < 2 ^ 1024 := pow_lt_pow_right₀ one_lt_two (by omega)
    have hunit : (0 : ℚ) ≤ 2 ^ 973 := by positivity
    exact Or.inl ((hn.magnitude_le L hfits).trans_lt (hpow.trans_le (le_add_of_nonneg_right hunit)))
  | none =>
    rw [hinteger] at h
    obtain ⟨x, hx, -⟩ := Option.map_eq_some_iff.mp h
    exact L.magnitude_lt_of_eq_some hx

end Literal

end ShopQuery.Json
