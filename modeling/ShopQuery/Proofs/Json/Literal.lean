import ShopQuery.Json.Numeral
import ShopQuery.Proofs.Number.Digits

/-!
# Numbers as they are written

A `Literal` is a number as a text has it: a sign, digits, a fraction and an exponent. `number?` says
what it is read as: an integer where it has neither fraction nor exponent and its value fits, and
otherwise what its leading digits come to after scaling. A literal is read as this, or refused where
there is no such number, and reading stops behind it (`readNumber_literal`).

## How the proof goes

The reader goes through a number once, from left to right, and knows of what is behind it only
whether that carries the number on. `Literal` has the same parts in the same order, so each stage of
the reader meets one part:

* the digits in front of the point (`readUnsigned_append`), of which those are kept that fit
  (`exists_appendDigits`);
* those behind it (`readFraction_append`), which are appended to the same significand and shift the
  exponent;
* the exponent (`readExponent_answers`), whose digits are read to their end even after it is clear
  that it is too great.

What follows the digits in front of the point decides which of three ways is taken, and there is one
lemma for each (`readAfterWhole_of_fraction`, `readAfterWhole_of_exponent`,
`readAfterWhole_of_plain`). The last is where integers come from: all digits fit the significand
exactly where the number they spell does (`appendDigits_zero_cases`).

## Why a literal is what it is

`whole_head` is the rule that no zero stands in front of other digits; without it the reader would
stop behind the zero. Minus zero is no integer, since an integer has no sign of its own, and a
negative integer has 63 bits where a positive one has 64. Both are read as floating-point numbers
instead, with no word about it. `scaled` has its own branch for exponents that are too great to be
read: the number is then zero or out of range whatever its digits are, even if they would make up
for the exponent.
-/

namespace ShopQuery.Json

/-! ## 1. Literals -/

/-- The sign of an exponent, which may be left out. -/
inductive ExponentSign where
  | none
  | plus
  | minus
deriving DecidableEq, Repr

def ExponentSign.text : ExponentSign → List Char
  | .none => []
  | .plus => ['+']
  | .minus => ['-']

/-- An exponent: its letter, a sign and digits. -/
structure Exponent where
  upper : Bool
  sign : ExponentSign
  digits : List Char
  isDigits : IsDigits digits

namespace Exponent

def text (e : Exponent) : List Char :=
  (if e.upper then 'E' else 'e') :: (e.sign.text ++ e.digits)

def number (e : Exponent) : Nat := decimalNumber e.digits

def value (e : Exponent) : Int := if e.sign = .minus then -e.number else e.number

end Exponent

/-- A number: a sign, digits without leading zeros, a fraction and an exponent. -/
structure Literal where
  negative : Bool
  whole : List Char
  fraction : Option (List Char)
  exponent : Option Exponent
  whole_isDigits : IsDigits whole
  whole_head : whole.head? = some '0' → whole = ['0']
  fraction_isDigits : ∀ ds ∈ fraction, IsDigits ds

def fractionText : Option (List Char) → List Char
  | none => []
  | some ds => '.' :: ds

def exponentText : Option Exponent → List Char
  | none => []
  | some e => e.text

namespace Literal

def text (L : Literal) : List Char :=
  (if L.negative then ['-'] else []) ++
    (L.whole ++ (fractionText L.fraction ++ exponentText L.exponent))

def fractionDigits (L : Literal) : List Char := L.fraction.getD []

/-- The number that all digits in front of the exponent spell. -/
def mantissa (L : Literal) : Nat := decimalNumber (L.whole ++ L.fractionDigits)

end Literal

/-! ## 2. What a literal is read as -/

/-- The magnitude of a significand with an exponent of its own and one that is written. Where the
latter is too great to be read, the number is out of range or zero. -/
def scaled (significand : Nat) (start : Int) : Option Exponent → Option Magnitude
  | none => magnitudeOf significand start
  | some e =>
    if e.number ≤ maxExponent then magnitudeOf significand (start + e.value)
    else if significand = 0 ∨ e.sign = .minus then some .zero
    else none

namespace Literal

/-- The significand that is read, and its exponent: digits that do not fit are left out. -/
def taken (L : Literal) : Nat × Int :=
  let whole := appendDigits 0 L.whole
  let all := appendDigits whole.1 L.fractionDigits
  (all.1, (whole.2 + all.2 : Nat) - L.fractionDigits.length)

/-- The integer of a literal without fraction and exponent, if it fits and is not minus zero. -/
def integer? (L : Literal) : Option Int :=
  if L.fraction.isSome || L.exponent.isSome then none
  else if L.negative then
    if L.mantissa = 0 || twoTo 63 < L.mantissa then none else some (-L.mantissa)
  else if L.mantissa ≤ maxSignificand then some L.mantissa
  else none

/-- The floating-point magnitude of a literal, if it is in range. -/
def magnitude? (L : Literal) : Option Magnitude := scaled L.taken.1 L.taken.2 L.exponent

/-- The number of a literal, if it is in range. -/
def number? (L : Literal) : Option Number :=
  match L.integer? with
  | some n => some (.integer n)
  | none => L.magnitude?.map fun x => .float ⟨L.negative, x⟩

end Literal

/-- A reading answers a value and the text behind it, or stops where there is no value. -/
def Answers {α : Type} (reading : Reading α) (value : Option α) (rest : List Char) : Prop :=
  match value with
  | some v => reading = .ok (v, rest)
  | none => ∃ stop, reading = .error stop

/-- What is made of an answer is made of its value. -/
theorem Answers.map {α β : Type} {reading : Reading α} {value : Option α} {rest : List Char}
    (h : Answers reading value rest) (f : α → β) :
    Answers (reading.map fun r => (f r.1, r.2)) (value.map f) rest := by
  cases value with
  | some v =>
    obtain rfl : reading = .ok (v, rest) := h
    rfl
  | none =>
    obtain ⟨stop, rfl⟩ := h
    exact ⟨stop, rfl⟩

/-- Two readings, one after the other. -/
theorem Answers.bind {α β : Type} {reading : Reading α} {value : Option α} {left rest : List Char}
    {next : α × List Char → Reading β} {after : α → Option β} (h : Answers reading value left)
    (hnext : ∀ v, Answers (next (v, left)) (after v) rest) :
    Answers (reading.bind next) (value.bind after) rest := by
  cases value with
  | some v =>
    obtain rfl : reading = .ok (v, left) := h
    exact hnext v
  | none =>
    obtain ⟨stop, rfl⟩ := h
    exact ⟨stop, rfl⟩

/-! ## 3. Runs of digits -/

/-- One more digit. -/
theorem ofDigitChars_cons (d : Char) (ds : List Char) (n : Nat) :
    Nat.ofDigitChars 10 (d :: ds) n = Nat.ofDigitChars 10 ds (n * 10 + digitValue d) := by
  rw [Nat.ofDigitChars_cons, Nat.mul_comm]
  rfl

/-- Digits behind a number never make it smaller. -/
theorem le_ofDigitChars (ds : List Char) (n : Nat) : n ≤ Nat.ofDigitChars 10 ds n := by
  induction ds generalizing n with
  | nil => exact Nat.le_of_eq Nat.ofDigitChars_nil.symm
  | cons d ds ih =>
    rw [ofDigitChars_cons]
    exact Nat.le_trans (by omega) (ih (n * 10 + digitValue d))

/-- What is appended are the first digits, up to one that would pass the greatest significand. -/
theorem exists_appendDigits {n : Nat} (hn : n ≤ maxSignificand) (ds : List Char) :
    ∃ taken left, ds = taken ++ left ∧ Nat.ofDigitChars 10 taken n ≤ maxSignificand ∧
      appendDigits n ds = (Nat.ofDigitChars 10 taken n, left.length) ∧
      ∀ d ∈ left.head?, maxSignificand < Nat.ofDigitChars 10 taken n * 10 + digitValue d := by
  induction ds generalizing n with
  | nil => exact ⟨[], [], rfl, hn, rfl, by simp⟩
  | cons d ds ih =>
    rw [appendDigits]
    by_cases h : maxSignificand < n * 10 + digitValue d
    · refine ⟨[], d :: ds, rfl, hn, if_pos h, ?_⟩
      rintro c ⟨⟩
      exact h
    · obtain ⟨taken, left, rfl, hfits, happend, hleft⟩ := ih (Nat.not_lt.mp h)
      refine ⟨d :: taken, left, rfl, ?_⟩
      rw [if_neg h, ofDigitChars_cons]
      exact ⟨hfits, happend, hleft⟩

/-- No more digits are left out than there are. -/
theorem appendDigits_snd_le (n : Nat) (ds : List Char) : (appendDigits n ds).2 ≤ ds.length := by
  induction ds generalizing n with
  | nil => exact Nat.le_refl 0
  | cons d ds ih =>
    rw [appendDigits]
    split
    · exact Nat.le_refl _
    · exact Nat.le_succ_of_le (ih _)

/-- Digits are left out exactly where the number that all of them spell does not fit. -/
theorem appendDigits_zero_cases (ds : List Char) :
    (decimalNumber ds ≤ maxSignificand ∧ appendDigits 0 ds = (decimalNumber ds, 0)) ∨
      (maxSignificand < decimalNumber ds ∧ (appendDigits 0 ds).2 ≠ 0) := by
  obtain ⟨taken, left, rfl, hfits, happend, hleft⟩ :=
    exists_appendDigits (Nat.zero_le maxSignificand) ds
  rw [happend, decimalNumber_eq_ofDigitChars]
  cases left with
  | nil =>
    rw [List.append_nil]
    exact Or.inl ⟨hfits, rfl⟩
  | cons d left =>
    refine Or.inr ⟨?_, Nat.succ_ne_zero _⟩
    rw [Nat.ofDigitChars_append, ofDigitChars_cons]
    exact Nat.lt_of_lt_of_le (hleft d rfl) (le_ofDigitChars left _)

/-! ## 4. Exponents -/

section Reading

variable (negative : Bool) {significand : Nat} {start : Int} {rest : List Char}

def Number.ofMagnitude (x : Magnitude) : Number := .float ⟨negative, x⟩

theorem finishFloat_answers :
    Answers (finishFloat negative significand start rest)
      ((magnitudeOf significand start).map (Number.ofMagnitude negative)) rest := by
  unfold finishFloat
  cases magnitudeOf significand start with
  | some x => rfl
  | none => exact ⟨_, rfl⟩

/-- The digits of an exponent are read to their end, even where they are too many. -/
theorem readExponentDigits_answers {ds : List Char} (hds : ∀ d ∈ ds, d.isDigit = true)
    (hrest : EndsDigits rest) (down : Bool) {n : Nat} (hn : n ≤ maxExponent) :
    Answers (readExponentDigits negative significand start down n (ds ++ rest))
      ((if Nat.ofDigitChars 10 ds n ≤ maxExponent then
          magnitudeOf significand
            (if down then start - Nat.ofDigitChars 10 ds n else start + Nat.ofDigitChars 10 ds n)
        else if significand = 0 ∨ down = true then some .zero
        else none).map (Number.ofMagnitude negative)) rest := by
  induction ds generalizing n with
  | nil =>
    rw [Nat.ofDigitChars_nil, if_pos hn]
    cases rest with
    | nil => exact finishFloat_answers negative
    | cons c rest =>
      rw [List.nil_append, readExponentDigits, if_neg (by simp [hrest c rfl])]
      exact finishFloat_answers negative
  | cons d ds ih =>
    obtain ⟨hd, hds⟩ := List.forall_mem_cons.mp hds
    rw [List.cons_append, readExponentDigits, if_pos hd, ofDigitChars_cons]
    dsimp only
    -- Once the exponent is too great it stays so, and the digits that are left are passed over.
    by_cases hnext : maxExponent < n * 10 + digitValue d
    · have hgreat := Nat.lt_of_lt_of_le hnext (le_ofDigitChars ds _)
      rw [if_pos hnext, if_neg (Nat.not_le.mpr hgreat), (takeWhile_isDigit_append hds hrest).2]
      by_cases hsignificand : significand = 0 <;> cases down <;>
        simp [hsignificand, Answers, Number.ofMagnitude, stopAt]
    · rw [if_neg hnext]
      exact ih hds (Nat.not_lt.mp hnext)

/-- An exponent that begins with a digit has no sign. -/
theorem readExponent_of_isDigit {c : Char} (h : c.isDigit = true) (cs : List Char) :
    readExponent negative significand start (c :: cs) =
      readExponentValue negative significand start false (c :: cs) := by
  unfold readExponent
  split
  · rename_i heq
    rw [(List.cons.inj heq).1] at h
    cases h
  · rename_i heq
    rw [(List.cons.inj heq).1] at h
    cases h
  · rfl

/-- An exponent is read to its end, and the significand scaled by it. -/
theorem readExponent_answers (e : Exponent) (hrest : EndsDigits rest) :
    Answers (readExponent negative significand start (e.sign.text ++ (e.digits ++ rest)))
      ((scaled significand start (some e)).map (Number.ofMagnitude negative)) rest := by
  obtain ⟨c, ds, hcons, hc⟩ := e.isDigits.exists_cons
  have hds : ∀ d ∈ ds, d.isDigit = true := fun d hd =>
    e.isDigits.digits d (hcons ▸ List.mem_cons_of_mem _ hd)
  have hfirst : digitValue c ≤ maxExponent :=
    Nat.le_trans (Nat.le_of_lt (digitValue_lt hc)) (by decide)
  have hnumber : Nat.ofDigitChars 10 ds (digitValue c) = e.number := by
    rw [Exponent.number, decimalNumber_eq_ofDigitChars, hcons, ofDigitChars_cons, Nat.zero_mul,
      Nat.zero_add]
  -- The first digit is read apart from the others; alone it is never too much.
  have hvalue : ∀ down, readExponentValue negative significand start down (e.digits ++ rest) =
      readExponentDigits negative significand start down (digitValue c) (ds ++ rest) := by
    intro down
    rw [hcons, List.cons_append, readExponentValue, if_pos hc]
  have hread : readExponent negative significand start (e.sign.text ++ (e.digits ++ rest)) =
      readExponentDigits negative significand start (e.sign = .minus) (digitValue c)
        (ds ++ rest) := by
    rw [← hvalue]
    cases e.sign with
    | none =>
      rw [ExponentSign.text, List.nil_append, hcons]
      exact readExponent_of_isDigit negative hc (ds ++ rest)
    | plus => rfl
    | minus => rfl
  rw [hread]
  have hanswers : Answers (readExponentDigits negative significand start _ _ (ds ++ rest)) _ rest :=
    readExponentDigits_answers negative hds hrest (e.sign = .minus) hfirst
  rw [hnumber] at hanswers
  unfold scaled Exponent.value
  -- Below a minus sign the reader subtracts, where the exponent has a negative value.
  by_cases hsign : e.sign = .minus <;> simpa [hsign, Int.sub_eq_add_neg] using hanswers

/-! ## 5. What follows the digits -/

/-- A text that does not carry a number on. -/
def EndsNumber (rest : List Char) : Prop :=
  ∀ c ∈ rest.head?, c.isDigit = false ∧ c ≠ '.' ∧ c ≠ 'e' ∧ c ≠ 'E'

theorem EndsNumber.endsDigits (h : EndsNumber rest) : EndsDigits rest := fun c hc => (h c hc).1

/-- An exponent ends the digits in front of it. -/
theorem Exponent.endsDigits (e : Exponent) (rest : List Char) : EndsDigits (e.text ++ rest) := by
  unfold Exponent.text
  cases e.upper <;> exact endsDigits_cons (by decide) _

/-- So does what follows the number, where no exponent does. -/
theorem endsDigits_exponentText (exponent : Option Exponent) (h : EndsNumber rest) :
    EndsDigits (exponentText exponent ++ rest) := by
  cases exponent with
  | none => exact h.endsDigits
  | some e => exact e.endsDigits rest

/-- Behind the fraction, an exponent scales the significand, or it stands as it is. -/
theorem readTail_answers (exponent : Option Exponent) (h : EndsNumber rest) :
    Answers (readTail negative significand start (exponentText exponent ++ rest))
      ((scaled significand start exponent).map (Number.ofMagnitude negative)) rest := by
  cases exponent with
  | none =>
    rw [exponentText, List.nil_append]
    unfold readTail
    split
    · exact absurd rfl (h 'e' rfl).2.2.1
    · exact absurd rfl (h 'E' rfl).2.2.2
    · exact finishFloat_answers negative
  | some e =>
    have hread : readTail negative significand start (exponentText (some e) ++ rest) =
        readExponent negative significand start (e.sign.text ++ (e.digits ++ rest)) := by
      rw [exponentText, Exponent.text, ← List.append_assoc]
      cases e.upper <;> rfl
    rw [hread]
    exact readExponent_answers negative e h.endsDigits

/-- The digits of a fraction are appended, and each that is kept shifts the exponent. -/
theorem readFraction_append {ds : List Char} (hds : IsDigits ds) (h : EndsDigits rest) :
    readFraction negative significand start (ds ++ rest) =
      readTail negative (appendDigits significand ds).1
        (start - (ds.length - (appendDigits significand ds).2 : Nat)) rest := by
  obtain ⟨htake, hdrop⟩ := takeWhile_isDigit_append hds.digits h
  unfold readFraction
  rw [htake, hdrop]
  obtain ⟨c, tail, rfl, -⟩ := hds.exists_cons
  rfl

/-- Reads what follows the digits in front of the point. -/
def readAfterWhole (taken : Nat × Nat) : List Char → Reading Number
  | '.' :: rest => readFraction negative taken.1 taken.2 rest
  | 'e' :: rest => readExponent negative taken.1 taken.2 rest
  | 'E' :: rest => readExponent negative taken.1 taken.2 rest
  | rest =>
    if taken.2 = 0 then ofPlain negative taken.1 rest
    else finishFloat negative taken.1 taken.2 rest

/-- The digits in front of the point are read to their end. -/
theorem readUnsigned_append {ds : List Char} (hds : IsDigits ds)
    (hhead : ds.head? = some '0' → ds = ['0']) (h : EndsDigits rest) :
    readUnsigned negative (ds ++ rest) = readAfterWhole negative (appendDigits 0 ds) rest := by
  obtain ⟨htake, hdrop⟩ := takeWhile_isDigit_append hds.digits h
  obtain ⟨c, tail, rfl, hc⟩ := hds.exists_cons
  -- a zero in front is all there is in front of the point, and no digit follows it
  have hzero : (c = '0' && (tail ++ rest).head?.any Char.isDigit) = false := by
    cases hfirst : decide (c = '0') with
    | false => rfl
    | true =>
      obtain rfl := of_decide_eq_true hfirst
      obtain rfl : tail = [] := (List.cons.inj (hhead rfl)).2
      cases rest with
      | nil => rfl
      | cons d rest => simp [h d rfl]
  rw [List.cons_append] at htake hdrop ⊢
  unfold readUnsigned
  simp only [hc, hzero, htake, hdrop]
  rfl

end Reading

/-! ## 6. Reading a literal -/

/-- A number that begins with a digit has no sign. -/
theorem readNumber_of_isDigit {c : Char} (h : c.isDigit = true) (cs : List Char) :
    readNumber (c :: cs) = readUnsigned false (c :: cs) := by
  unfold readNumber
  split
  · rename_i heq
    rw [(List.cons.inj heq).1] at h
    cases h
  · rfl

namespace Literal

variable (L : Literal) {rest : List Char}

/-- Without a fraction, the digits in front of the point are all digits. -/
theorem mantissa_of_fraction_eq_none (h : L.fraction = none) :
    L.mantissa = decimalNumber L.whole := by
  rw [mantissa, fractionDigits, h, Option.getD_none, List.append_nil]

theorem taken_of_fraction_eq_none (h : L.fraction = none) :
    L.taken = ((appendDigits 0 L.whole).1, ((appendDigits 0 L.whole).2 : Int)) := by
  unfold taken fractionDigits
  rw [h]
  simp [appendDigits]

/-- What is no integer is read as a magnitude with a sign. -/
theorem number?_of_integer?_eq_none (h : L.integer? = none) :
    L.number? = L.magnitude?.map (Number.ofMagnitude L.negative) := by
  rw [number?, h]
  rfl

/-- With a fraction, its digits are appended to those in front of the point. -/
theorem readAfterWhole_of_fraction {ds : List Char} (h : L.fraction = some ds)
    (hrest : EndsNumber rest) :
    Answers (readAfterWhole L.negative (appendDigits 0 L.whole)
      (fractionText L.fraction ++ exponentText L.exponent ++ rest)) L.number? rest := by
  have hinteger : L.integer? = none := by simp [integer?, h]
  have hdigits : L.fractionDigits = ds := by rw [fractionDigits, h, Option.getD_some]
  have hread : readAfterWhole L.negative (appendDigits 0 L.whole)
      (fractionText L.fraction ++ exponentText L.exponent ++ rest) =
      readTail L.negative L.taken.1 L.taken.2 (exponentText L.exponent ++ rest) := by
    rw [h, fractionText, List.cons_append, List.cons_append, List.append_assoc, readAfterWhole,
      readFraction_append _ (L.fraction_isDigits ds h) (endsDigits_exponentText L.exponent hrest)]
    unfold taken
    rw [hdigits]
    congr 1
    dsimp only
    have hle := appendDigits_snd_le (appendDigits 0 L.whole).1 ds
    omega
  rw [hread, number?_of_integer?_eq_none L hinteger]
  exact readTail_answers L.negative L.exponent hrest

/-- Without a fraction but with an exponent, the digits are scaled at once. -/
theorem readAfterWhole_of_exponent {e : Exponent} (hfraction : L.fraction = none)
    (h : L.exponent = some e) (hrest : EndsNumber rest) :
    Answers (readAfterWhole L.negative (appendDigits 0 L.whole)
      (fractionText L.fraction ++ exponentText L.exponent ++ rest)) L.number? rest := by
  have hinteger : L.integer? = none := by simp [integer?, h]
  have hread : readAfterWhole L.negative (appendDigits 0 L.whole)
      (fractionText L.fraction ++ exponentText L.exponent ++ rest) =
      readExponent L.negative L.taken.1 L.taken.2 (e.sign.text ++ (e.digits ++ rest)) := by
    rw [taken_of_fraction_eq_none L hfraction, hfraction, h, fractionText, exponentText,
      Exponent.text, List.nil_append, ← List.append_assoc]
    cases e.upper <;> rfl
  rw [hread, number?_of_integer?_eq_none L hinteger, magnitude?, h]
  exact readExponent_answers L.negative e hrest.endsDigits

theorem readAfterWhole_of_endsNumber (negative : Bool) (taken : Nat × Nat)
    (hrest : EndsNumber rest) :
    readAfterWhole negative taken rest =
      if taken.2 = 0 then ofPlain negative taken.1 rest
      else finishFloat negative taken.1 taken.2 rest := by
  unfold readAfterWhole
  split
  · exact absurd rfl (hrest '.' rfl).2.1
  · exact absurd rfl (hrest 'e' rfl).2.2.1
  · exact absurd rfl (hrest 'E' rfl).2.2.2
  · rfl

/-- With neither, the digits are an integer if they fit. -/
theorem readAfterWhole_of_plain (hfraction : L.fraction = none) (hexponent : L.exponent = none)
    (hrest : EndsNumber rest) :
    Answers (readAfterWhole L.negative (appendDigits 0 L.whole)
      (fractionText L.fraction ++ exponentText L.exponent ++ rest)) L.number? rest := by
  have hmantissa := mantissa_of_fraction_eq_none L hfraction
  have hmagnitude : L.magnitude? =
      magnitudeOf (appendDigits 0 L.whole).1 (appendDigits 0 L.whole).2 := by
    rw [magnitude?, hexponent, scaled, taken_of_fraction_eq_none L hfraction]
  rw [hfraction, hexponent, fractionText, exponentText, List.nil_append, List.nil_append,
    readAfterWhole_of_endsNumber _ _ hrest]
  have hfloat : Answers (finishFloat L.negative (appendDigits 0 L.whole).1
      (appendDigits 0 L.whole).2 rest) _ rest := finishFloat_answers L.negative
  rw [← hmagnitude] at hfloat
  -- Digits that fit a significand are kept as an integer; others are rounded.
  rcases appendDigits_zero_cases L.whole with ⟨hfits, happend⟩ | ⟨hgreat, hleft⟩
  · rw [happend] at hfloat ⊢
    rw [if_pos rfl]
    have hinteger : L.integer? = if L.negative then
        if decimalNumber L.whole = 0 || twoTo 63 < decimalNumber L.whole then none
        else some (-(decimalNumber L.whole : Int))
      else some (decimalNumber L.whole : Int) := by
      unfold integer?
      rw [hfraction, hexponent, hmantissa, if_pos hfits]
      rfl
    unfold ofPlain
    cases hnegative : L.negative with
    | false =>
      rw [hnegative] at hinteger
      rw [number?, hinteger]
      rfl
    | true =>
      rw [hnegative, if_pos rfl] at hinteger
      rw [if_pos rfl]
      -- Minus zero and what is below the least integer of 64 bits are kept as no integer.
      by_cases hout : (decide (decimalNumber L.whole = 0) ||
          decide (twoTo 63 < decimalNumber L.whole)) = true
      · rw [if_pos hout] at hinteger ⊢
        rw [number?_of_integer?_eq_none L hinteger, hnegative]
        exact hnegative ▸ hfloat
      · rw [if_neg hout] at hinteger ⊢
        rw [number?, hinteger]
        rfl
  · have hmax : twoTo 63 ≤ maxSignificand := by decide
    have hinteger : L.integer? = none := by
      unfold integer?
      rw [hmantissa, if_neg (Nat.not_le.mpr hgreat)]
      simp
      omega
    rw [if_neg hleft, number?_of_integer?_eq_none L hinteger]
    exact hfloat

end Literal

/-- **A literal is read as its number, or refused where it has none.** -/
theorem readNumber_literal (L : Literal) {rest : List Char} (hrest : EndsNumber rest) :
    Answers (readNumber (L.text ++ rest)) L.number? rest := by
  have hends : EndsDigits (fractionText L.fraction ++ exponentText L.exponent ++ rest) := by
    cases L.fraction with
    | none => exact endsDigits_exponentText L.exponent hrest
    | some ds => exact endsDigits_cons (by decide) _
  have hread : readNumber (L.text ++ rest) = readAfterWhole L.negative (appendDigits 0 L.whole)
      (fractionText L.fraction ++ exponentText L.exponent ++ rest) := by
    rw [← readUnsigned_append L.negative L.whole_isDigits L.whole_head hends]
    unfold Literal.text
    cases L.negative with
    | true => simp [readNumber]
    | false =>
      obtain ⟨c, ds, hcons, hc⟩ := L.whole_isDigits.exists_cons
      simp [hcons, readNumber_of_isDigit hc]
  rw [hread]
  cases hfraction : L.fraction with
  | some ds => exact hfraction ▸ L.readAfterWhole_of_fraction hfraction hrest
  | none =>
    cases hexponent : L.exponent with
    | some e => exact hfraction ▸ hexponent ▸ L.readAfterWhole_of_exponent hfraction hexponent hrest
    | none => exact hfraction ▸ hexponent ▸ L.readAfterWhole_of_plain hfraction hexponent hrest

end ShopQuery.Json
