import Mathlib.Data.List.Basic
import Mathlib.Data.List.Induction
import ShopQuery.Calendar.Date
import ShopQuery.Number.Digits
import ShopQuery.Number.Power

/-!
# Digits and the numbers they spell

Digits of one length spell different numbers (`eq_of_decimalNumber_eq`), all below the power of ten
of that length (`decimalNumber_lt`). So digits are the number that they spell, padded with zeros
(`padded_decimalNumber`).

## How the proof goes

A number is spelled from its first digit on, so what one more digit does is known for the last
digit: it multiplies by ten and adds (`decimalNumber_append_digit`). That is why the inductions here
are on lists from their end (`List.reverseRecOn`). Two lists of one length then have the same last
digit, by the rest modulo ten, and the same number in front of it.

Lean's own library spells numbers as well, by `Nat.toDigits`, and reads digits by
`Nat.ofDigitChars`. `decimalNumber_eq_ofDigitChars` says that this is the same reading, so that what
is known there can be used: digits are digits, and a number is read back from them.

`EndsDigits` is the condition under which a run of digits ends where it was meant to. It is stated
for whatever comes behind digits in this project: dates, ports and JSON numbers.
-/

namespace ShopQuery

/-! ## 1. Digits -/

/-- Decimal digits, at least one. -/
structure IsDigits (ds : List Char) : Prop where
  digits : ∀ d ∈ ds, d.isDigit = true
  nonempty : ds ≠ []

/-- Whether a text is digits can be computed. -/
theorem isDigits_iff {ds : List Char} :
    IsDigits ds ↔ ds.all Char.isDigit = true ∧ ds.isEmpty = false := by
  rw [List.all_eq_true, List.isEmpty_eq_false_iff]
  exact ⟨fun h => ⟨h.digits, h.nonempty⟩, fun h => ⟨h.1, h.2⟩⟩

instance (ds : List Char) : Decidable (IsDigits ds) := decidable_of_iff _ isDigits_iff.symm

/-- Digits begin with a digit. -/
theorem IsDigits.exists_cons {ds : List Char} (h : IsDigits ds) :
    ∃ c rest, ds = c :: rest ∧ c.isDigit = true := by
  obtain ⟨c, rest, rfl⟩ := List.exists_cons_of_ne_nil h.nonempty
  exact ⟨c, rest, rfl, h.digits c List.mem_cons_self⟩

theorem isDigits_toDigits (n : Nat) : IsDigits (Nat.toDigits 10 n) where
  digits _ := Nat.isDigit_of_mem_toDigits (by decide) (by decide)
  nonempty := Nat.toDigits_ne_nil

/-- A text that does not begin with a digit. -/
def EndsDigits (rest : List Char) : Prop := ∀ c ∈ rest.head?, c.isDigit = false

theorem endsDigits_cons {c : Char} (h : c.isDigit = false) (rest : List Char) :
    EndsDigits (c :: rest) := by
  rintro d ⟨⟩
  exact h

/-- Digits are cut off in front of what ends them. -/
theorem takeWhile_isDigit_append {ds rest : List Char} (hds : ∀ d ∈ ds, d.isDigit = true)
    (h : EndsDigits rest) :
    (ds ++ rest).takeWhile Char.isDigit = ds ∧ (ds ++ rest).dropWhile Char.isDigit = rest := by
  rw [List.takeWhile_append_of_pos hds, List.dropWhile_append_of_pos hds]
  cases rest with
  | nil => simp
  | cons c rest => simp [h c rfl]

theorem isDigit_iff {c : Char} : c.isDigit = true ↔ 48 ≤ c.toNat ∧ c.toNat ≤ 57 :=
  Char.isDigit_iff_toNat

theorem digitValue_lt {c : Char} (h : c.isDigit = true) : digitValue c < 10 := by
  have hc := isDigit_iff.mp h
  unfold digitValue
  omega

/-- Digits of one value are one digit. -/
theorem eq_of_digitValue_eq {c d : Char} (hc : c.isDigit = true) (hd : d.isDigit = true)
    (h : digitValue c = digitValue d) : c = d := by
  rw [isDigit_iff] at hc hd
  unfold digitValue at h
  exact Char.toNat_inj.mp (by omega)

theorem tenTo_succ (k : Nat) : tenTo (k + 1) = tenTo k * 10 := rfl

/-- One more digit at the end multiplies by ten and adds. -/
theorem decimalNumber_append_digit (ds : List Char) (d : Char) :
    decimalNumber (ds ++ [d]) = decimalNumber ds * 10 + digitValue d := by
  simp [decimalNumber]

/-- The number that digits spell, by the library's reading of digits. -/
theorem decimalNumber_eq_ofDigitChars (ds : List Char) :
    decimalNumber ds = Nat.ofDigitChars 10 ds 0 := by
  rw [Nat.ofDigitChars_eq_foldl]
  unfold decimalNumber digitValue
  congr 1
  funext n d
  rw [Nat.mul_comm]
  rfl

/-- Digits in two pieces: those in front are worth as much as there are behind. -/
theorem decimalNumber_append (ds es : List Char) :
    decimalNumber (ds ++ es) = decimalNumber ds * tenTo es.length + decimalNumber es := by
  induction es using List.reverseRecOn with
  | nil => simp [decimalNumber, tenTo]
  | append_singleton es e ih =>
    rw [← List.append_assoc, decimalNumber_append_digit, ih, decimalNumber_append_digit,
      List.length_append, List.length_singleton, tenTo_succ, Nat.add_mul, Nat.mul_assoc,
      Nat.add_assoc]

/-- Digits spell less than the power of ten of their length. -/
theorem decimalNumber_lt {ds : List Char} (h : ∀ d ∈ ds, d.isDigit = true) :
    decimalNumber ds < tenTo ds.length := by
  induction ds using List.reverseRecOn with
  | nil => decide
  | append_singleton ds d ih =>
    have hd := digitValue_lt (h d (by simp))
    have hds := ih fun c hc => h c (by simp [hc])
    rw [decimalNumber_append_digit, List.length_append, List.length_singleton, tenTo_succ]
    omega

/-- Digits of one length spell different numbers. -/
theorem eq_of_decimalNumber_eq {ds es : List Char} (hds : ∀ d ∈ ds, d.isDigit = true)
    (hes : ∀ e ∈ es, e.isDigit = true) (hlength : ds.length = es.length)
    (h : decimalNumber ds = decimalNumber es) : ds = es := by
  induction ds using List.reverseRecOn generalizing es with
  | nil => exact (List.length_eq_zero_iff.mp hlength.symm).symm
  | append_singleton ds d ih =>
    rcases List.eq_nil_or_concat' es with rfl | ⟨es, e, rfl⟩
    · simp at hlength
    have hd := hds d (by simp)
    have he := hes e (by simp)
    have hdlt := digitValue_lt hd
    have helt := digitValue_lt he
    rw [decimalNumber_append_digit, decimalNumber_append_digit] at h
    have hlast : d = e := eq_of_digitValue_eq hd he (by omega)
    have hfront : ds = es :=
      ih (fun c hc => hds c (by simp [hc])) (fun c hc => hes c (by simp [hc]))
        (by simpa using hlength) (by omega)
    rw [hlast, hfront]

/-! ## 2. Padded numbers -/

namespace Date

theorem isDigit_of_mem_padded {width n : Nat} {c : Char} (h : c ∈ padded width n) :
    c.isDigit = true := by
  unfold padded at h
  rcases List.mem_append.mp h with h | h
  · rw [List.eq_of_mem_replicate h]
    decide
  · exact Nat.isDigit_of_mem_toDigits (by decide) (by decide) h

/-- Zeros in front of a number change nothing. -/
theorem decimalNumber_padded (width n : Nat) : decimalNumber (padded width n) = n := by
  unfold padded
  rw [decimalNumber_eq_ofDigitChars, Nat.ofDigitChars_append, Nat.ofDigitChars_replicate_zero,
    Nat.mul_zero, Nat.ofDigitChars_ten_toDigits]

/-- A number that fits a width is padded to it. -/
theorem length_padded {width n : Nat} (hwidth : 0 < width) (h : n < tenTo width) :
    (padded width n).length = width := by
  have hlength := (Nat.length_toDigits_le_iff (b := 10) (by decide) hwidth).mpr h
  unfold padded
  rw [List.length_append, List.length_replicate]
  omega

/-- Digits are the number that they spell, padded to as many digits. -/
theorem padded_decimalNumber {ds : List Char} (h : ∀ d ∈ ds, d.isDigit = true) (hne : ds ≠ []) :
    padded ds.length (decimalNumber ds) = ds := by
  refine eq_of_decimalNumber_eq (fun _ => isDigit_of_mem_padded) h ?_ (decimalNumber_padded _ _)
  exact length_padded (List.length_pos_iff.mpr hne) (decimalNumber_lt h)

end Date

end ShopQuery
