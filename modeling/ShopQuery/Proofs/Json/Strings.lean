import ShopQuery.Json.Printer
import ShopQuery.Json.Reader

/-!
# Written strings read back

Every character that is written inside quotes is read as itself (`readChars_escape`), so a string is
(`readString_quoted`).

## How the proof goes

A character is written in one of three ways: with an escape of its own, as four hexadecimal digits,
or as it is. The reader takes exactly these apart, and each way is one lemma. The digits spell a
number below U+0020, so that it is no surrogate and never the first half of a pair; otherwise the
reader would go on and look for the second half.

The statements have a rest behind what is written. Reading a string must not only give it back but
stop at the quote that ends it; so that quote is part of the statement, and a quote inside the
string is not mistaken for it, because it is escaped.
-/

namespace ShopQuery.Json

/-! ## 1. Controls -/

/-- A hexadecimal digit is worth what it was written for. -/
theorem hexValue?_hexDigit : ∀ n < 16, hexValue? (hexDigit n) = some n := by decide

/-- The escape of a control spells its number. -/
theorem hexValue4?_control {n : Nat} (h : n < 0x20) :
    hexValue4? '0' '0' (hexDigit (n / 16)) (hexDigit (n % 16)) = some n := by
  have hzero : hexValue? '0' = some 0 := by decide
  unfold hexValue4?
  rw [hzero, hexValue?_hexDigit _ (by omega), hexValue?_hexDigit _ (by omega)]
  simp only [Option.bind_eq_bind, Option.bind_some, Option.pure_def, Option.some.injEq]
  omega

/-- A control is read from its four digits. -/
theorem readChars_control {c : Char} (h : c.toNat < 0x20) (rest : List Char) :
    readChars ('\\' :: 'u' :: '0' :: '0' :: hexDigit (c.toNat / 16) :: hexDigit (c.toNat % 16) ::
      rest) = consChar c (readChars rest) := by
  have hlow : isLowSurrogate c.toNat = false := by
    rw [isLowSurrogate, decide_eq_false (by omega), Bool.false_and]
  have hhigh : isHighSurrogate c.toNat = false := by
    rw [isHighSurrogate, decide_eq_false (by omega), Bool.false_and]
  rw [readChars]
  simp only [hexValue4?_control h, hlow, hhigh, Bool.false_eq_true, if_false, Char.ofNat_toNat]

/-! ## 2. Characters -/

/-- A character that needs no escape is read as it is. -/
theorem readChars_plain {c : Char} (hquote : c ≠ '"') (hbackslash : c ≠ '\\')
    (h : ¬ c.toNat < 0x20) (rest : List Char) :
    readChars (c :: rest) = consChar c (readChars rest) := by
  rw [readChars]
  · rw [if_neg h]
  · exact hquote
  · exact hbackslash

/-- **A character is read from what it is written as.** -/
theorem readChars_escape (c : Char) (rest : List Char) :
    readChars (escape c ++ rest) = consChar c (readChars rest) := by
  unfold escape
  split
  iterate 7 · simp [readChars, simpleEscape?]
  · rename_i hquote hbackslash _ _ _ _ _
    split
    · rename_i hcontrol
      exact readChars_control hcontrol rest
    · rename_i hcontrol
      exact readChars_plain hquote hbackslash hcontrol rest

/-! ## 3. Strings -/

/-- Characters up to the quote that ends them, by induction on them. -/
theorem readChars_quoted (cs rest : List Char) :
    readChars (cs.flatMap escape ++ '"' :: rest) = .ok (cs, rest) := by
  induction cs with
  | nil => rw [List.flatMap_nil, List.nil_append, readChars]
  | cons c cs ih =>
    rw [List.flatMap_cons, List.append_assoc, readChars_escape, ih]
    rfl

/-- **A string that was written is read back, and reading stops behind it.** -/
theorem readString_quoted (s : String) (rest : List Char) :
    readString (s.toList.flatMap escape ++ '"' :: rest) = .ok (s, rest) := by
  unfold readString
  rw [readChars_quoted]
  simp [Except.map]

end ShopQuery.Json
