import ShopQuery.Json.Printer
import ShopQuery.Proofs.Json.Literal

/-!
# Written integers read back

`Literal.ofInt` is an integer as it is written: a literal without fraction and exponent, of which
the printer writes the text (`Literal.text_ofInt`). One of 64 bits, signed or unsigned, stands for
itself (`Literal.number?_ofInt`), so that every reader of literals reads it back. The bounds are
those of what a JSON number holds as an integer (`FitsNumber`): beyond them a literal stands for a
floating-point number, and the integer is lost.

The digits come from `Nat.toDigits`. What a literal asks of them is shown by strong induction on the
number, along its last digit: they are digits, the first of them is no zero unless it is the only
one, and they spell the number.
-/

namespace ShopQuery.Json

/-- Only zero begins with a zero. -/
theorem head_toDigits_ne_zero {n : Nat} (h : 0 < n) : (Nat.toDigits 10 n).head? ≠ some '0' := by
  induction n using Nat.strongRecOn with
  | ind n ih =>
    rw [Nat.toDigits_eq_if (by decide)]
    split
    · simp only [List.head?_cons, ne_eq, Option.some.injEq, Nat.digitChar_eq_zero]
      omega
    · have hhead := ih (n / 10) (by omega) (by omega)
      cases hdigits : Nat.toDigits 10 (n / 10) with
      | nil => exact absurd hdigits Nat.toDigits_ne_nil
      | cons d ds =>
        rw [hdigits] at hhead
        exact hhead

def Literal.ofInt (n : Int) : Literal where
  negative := n < 0
  whole := Nat.toDigits 10 n.natAbs
  fraction := none
  exponent := none
  whole_isDigits := isDigits_toDigits n.natAbs
  whole_head h := by
    rcases Nat.eq_zero_or_pos n.natAbs with hzero | hpos
    · rw [hzero]
      rfl
    · exact absurd h (head_toDigits_ne_zero hpos)
  fraction_isDigits := by simp

/-- The printer writes the text of the literal. -/
theorem Literal.text_ofInt (n : Int) : (ofInt n).text = writeInt n := by
  cases n with
  | ofNat n => simp [text, ofInt, fractionText, exponentText, writeInt]
  | negSucc n => simp [text, ofInt, fractionText, exponentText, writeInt, Int.negSucc_lt_zero]

/-- The digits spell the number, whatever its sign. -/
theorem Literal.mantissa_ofInt (n : Int) : (ofInt n).mantissa = n.natAbs := by
  rw [mantissa_of_fraction_eq_none _ rfl, decimalNumber_eq_ofDigitChars]
  exact Nat.ofDigitChars_ten_toDigits

/-- The integers of 64 bits, signed or unsigned. -/
def FitsNumber (n : Int) : Prop := -9223372036854775808 ≤ n ∧ n ≤ 18446744073709551615

theorem fitsNumber_toInt (n : Int64) : FitsNumber n.toInt := by
  have hlow := n.le_toInt
  have hhigh := n.toInt_lt
  exact ⟨by omega, by omega⟩

/-- **An integer of 64 bits stands for itself**, signed or unsigned. -/
theorem Literal.number?_ofInt {n : Int} (h : FitsNumber n) :
    (ofInt n).number? = some (.integer n) := by
  obtain ⟨hlow, hhigh⟩ := h
  have hmax : maxSignificand = 18446744073709551615 := rfl
  have htwo : twoTo 63 = 9223372036854775808 := rfl
  have hplain : ((ofInt n).fraction.isSome || (ofInt n).exponent.isSome) = false := rfl
  have hinteger : (ofInt n).integer? = some n := by
    unfold integer?
    rw [mantissa_ofInt, hplain, if_neg Bool.false_ne_true]
    by_cases hn : n < 0
    · have hnegative : (ofInt n).negative = true := decide_eq_true hn
      have hin : ¬ (decide (n.natAbs = 0) || decide (twoTo 63 < n.natAbs)) = true := by
        rw [Bool.or_eq_true, decide_eq_true_eq, decide_eq_true_eq]
        omega
      rw [if_pos hnegative, if_neg hin, Option.some.injEq]
      omega
    · have hnegative : ¬ (ofInt n).negative = true := fun h => hn (of_decide_eq_true h)
      rw [if_neg hnegative, if_pos (by omega), Option.some.injEq]
      omega
  rw [number?, hinteger]

end ShopQuery.Json
