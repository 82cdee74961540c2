import Mathlib.Data.List.TakeWhile
import ShopQuery.Calendar.DateText
import ShopQuery.Proofs.Calendar.DayNumber
import ShopQuery.Proofs.FirstFailure
import ShopQuery.Proofs.Number.Digits

/-!
# Which texts are dates

`Spells` says how a date may be written, and a text is read as a date exactly where it spells that
date (`readAll_eq_ok_iff`). A text in full form, with four digits, two and two, is read as the day
of the calendar with these numbers if there is one (`readAll_fullForm`). Among the texts that spell
a date, those that are its own rendering are the ones of ten characters that begin with a digit and
have no white space (`isStrict_iff`).

## How the proof goes

The reader takes a text apart in five steps: year, dash, month, dash, day. Each step has two lemmas.
`of_read…_eq_ok` says what stood at the front if the step succeeds; `read…_append` says that the
step succeeds on such a front, whatever follows. One direction of `readAll_eq_ok_iff` chains the
first kind, the other the second (`readAll_parts`), which gives the outcome for every year, month
and day, also where the calendar has no such day: the full form needs its error as well.

## The side conditions

* `EndsDigits rest`: a number is read as far as its digits go, so what follows it must not begin
  with one. A dash follows the year and the month, nothing the day.
* `n < twoTo 63`: numbers are read into 64 bits. Months and days have two digits at most and fit;
  a signed year may have any number of them and fits because the calendar ends at 262142.
* `limit ≠ some 0`: at least one digit is taken, else the reader fails on an empty number.

## Where reading is lax

A year may have a sign and more digits than four, a month or a day may have one digit only, and
white space may stand before each. `IsPlain` is what excludes all of this without a look at the
date: ten characters that begin with a digit leave room for four digits, two and two alone. A year
beyond 9999 is written with a sign, so its rendering is not in full form, and `IsStrict` asks for
both.
-/

namespace ShopQuery.DateText

/-! ## 1. How a date may be written -/

/-- Digits, and the number that they spell. -/
structure SpellsNumber (ds : List Char) (n : Nat) : Prop extends IsDigits ds where
  value : decimalNumber ds = n

/-- A year: up to four digits, or a sign and any number of digits. -/
inductive SpellsYear : List Char → Int → Prop
  | plain {ds : List Char} {n : Nat} (number : SpellsNumber ds n) (length : ds.length ≤ 4) :
    SpellsYear ds n
  | plus {ds : List Char} {n : Nat} (number : SpellsNumber ds n) : SpellsYear ('+' :: ds) n
  | minus {ds : List Char} {n : Nat} (number : SpellsNumber ds n) : SpellsYear ('-' :: ds) (-n)

/-- A month or a day: one or two digits. -/
structure SpellsPart (ds : List Char) (n : Nat) : Prop extends SpellsNumber ds n where
  length : ds.length ≤ 2

/-- Only white space. -/
def IsBlankText (cs : List Char) : Prop := ∀ c ∈ cs, isBlank c = true

/-- A date: its year, month and day with dashes between them, and white space in front of each. -/
inductive Spells : List Char → Date → Prop
  | parts {beforeYear year beforeMonth month beforeDay day : List Char} {date : Date}
    (year_spelled : SpellsYear year date.year) (month_spelled : SpellsPart month date.month)
    (day_spelled : SpellsPart day date.day) (year_blank : IsBlankText beforeYear)
    (month_blank : IsBlankText beforeMonth) (day_blank : IsBlankText beforeDay) :
    Spells (beforeYear ++ year ++ '-' :: (beforeMonth ++ month ++ '-' :: (beforeDay ++ day))) date

/-! ## 2. White space and digits -/

/-- No digit is white space. -/
theorem isBlank_of_isDigit {c : Char} (h : c.isDigit = true) : isBlank c = false := by
  have hc := isDigit_iff.mp h
  simp only [isBlank, Bool.or_eq_false_iff, Bool.and_eq_false_iff, decide_eq_false_iff_not]
  omega

/-- White space is dropped up to the first character that is none. -/
theorem dropBlanks_append {blank rest : List Char} (h : IsBlankText blank)
    (hrest : ∀ c ∈ rest.head?, isBlank c = false) : dropBlanks (blank ++ rest) = rest := by
  unfold dropBlanks
  rw [List.dropWhile_append_of_pos h]
  cases rest with
  | nil => rfl
  | cons c rest => rw [List.dropWhile_cons_of_neg (by simp [hrest c rfl])]

/-- What is dropped in front of a text is white space. -/
theorem exists_blank_append_dropBlanks (cs : List Char) :
    ∃ blank, IsBlankText blank ∧ cs = blank ++ dropBlanks cs :=
  ⟨cs.takeWhile isBlank, fun _ => List.mem_takeWhile_imp, List.takeWhile_append_dropWhile.symm⟩

/-- What the reader takes is digits at the front of the text. -/
theorem of_readNumber_eq_ok {limit : Option Nat} {cs rest : List Char} {n : Nat}
    (hlimit : limit ≠ some 0) (h : readNumber limit cs = .ok (n, rest)) :
    ∃ ds, cs = ds ++ rest ∧ SpellsNumber ds n ∧ ∀ k ∈ limit, ds.length ≤ k := by
  cases cs with
  | nil => cases h
  | cons c cs =>
    -- Whatever the limit is, what is taken is a prefix of the digits in front.
    have hleading : leadingDigits limit (c :: cs) <+: (c :: cs).takeWhile Char.isDigit := by
      unfold leadingDigits
      cases limit with
      | none => exact List.prefix_rfl
      | some k => exact List.take_prefix _ _
    unfold readNumber at h
    dsimp only at h
    split at h
    · rename_i hc
      split at h
      · cases h
        refine ⟨leadingDigits limit (c :: cs), ?_, ⟨⟨fun d hd => ?_, ?_⟩, rfl⟩, ?_⟩
        · exact (List.prefix_iff_eq_append.mp (hleading.trans (List.takeWhile_prefix _))).symm
        · exact List.mem_takeWhile_imp (hleading.subset hd)
        · unfold leadingDigits
          rw [List.takeWhile_cons_of_pos hc]
          cases limit with
          | none => simp
          | some k => simpa using hlimit
        · rintro k ⟨⟩
          exact List.length_take_le _ _
      · cases h
    · cases h

/-- Digits that end where the reader stops are all taken. -/
theorem readNumber_append {limit : Option Nat} {ds rest : List Char} {n : Nat}
    (h : SpellsNumber ds n) (hfits : n < twoTo 63) (hlimit : ∀ k ∈ limit, ds.length ≤ k)
    (hrest : EndsDigits rest) :
    readNumber limit (ds ++ rest) = .ok (n, rest) := by
  have hleading : leadingDigits limit (ds ++ rest) = ds := by
    unfold leadingDigits
    rw [(takeWhile_isDigit_append h.digits hrest).1]
    cases limit with
    | none => rfl
    | some k => exact List.take_of_length_le (hlimit k rfl)
  obtain ⟨c, tail, rfl, hc⟩ := h.exists_cons
  rw [List.cons_append] at hleading ⊢
  unfold readNumber
  dsimp only
  rw [if_pos hc, hleading, h.value, if_pos hfits, ← List.cons_append,
    List.drop_left]

/-! ## 3. Years, months and days -/

/-- Reads the sign and the digits of a year. -/
def readSigned : List Char → Except DateFault (Int × List Char)
  | '-' :: rest => (readNumber none rest).map fun r => (-(r.1 : Int), r.2)
  | '+' :: rest => (readNumber none rest).map fun r => ((r.1 : Int), r.2)
  | rest => (readNumber (some 4) rest).map fun r => ((r.1 : Int), r.2)

/-- A year is read as a signed number, and its range checked behind that. -/
theorem readYear_eq (cs : List Char) :
    readYear cs = readSigned (dropBlanks cs) >>= fun r =>
      if -(twoTo 31 : Int) ≤ r.1 ∧ r.1 < twoTo 31 then .ok r else .error .outOfRange := by
  unfold readYear
  generalize dropBlanks cs = text
  unfold readSigned
  split <;> simp only [] <;> rfl

/-- What is read as a year spells it, by the sign that it begins with. -/
theorem of_readSigned_eq_ok {cs rest : List Char} {year : Int}
    (h : readSigned cs = .ok (year, rest)) : ∃ text, SpellsYear text year ∧ cs = text ++ rest := by
  unfold readSigned at h
  split at h
  · obtain ⟨⟨n, left⟩, hread, hvalue⟩ := map_eq_ok_iff.mp h
    cases hvalue
    obtain ⟨ds, rfl, hnumber, -⟩ := of_readNumber_eq_ok (by simp) hread
    exact ⟨'-' :: ds, .minus hnumber, rfl⟩
  · obtain ⟨⟨n, left⟩, hread, hvalue⟩ := map_eq_ok_iff.mp h
    cases hvalue
    obtain ⟨ds, rfl, hnumber, -⟩ := of_readNumber_eq_ok (by simp) hread
    exact ⟨'+' :: ds, .plus hnumber, rfl⟩
  · obtain ⟨⟨n, left⟩, hread, hvalue⟩ := map_eq_ok_iff.mp h
    cases hvalue
    obtain ⟨ds, rfl, hnumber, hlength⟩ := of_readNumber_eq_ok (by simp) hread
    exact ⟨ds, .plain hnumber (hlength 4 rfl), rfl⟩

/-- The years of the calendar fit where numbers are read. -/
theorem readSigned_append {text rest : List Char} {year : Int} (h : SpellsYear text year)
    (hyear : -262143 ≤ year ∧ year ≤ 262142) (hrest : EndsDigits rest) :
    readSigned (text ++ rest) = .ok (year, rest) := by
  have h63 : twoTo 63 = 9223372036854775808 := rfl
  cases h with
  | @plain _ n hnumber hlength =>
    have hread : readNumber (some 4) (text ++ rest) = .ok (n, rest) :=
      readNumber_append hnumber (by omega) (by rintro k ⟨⟩; exact hlength) hrest
    obtain ⟨c, tail, rfl, hc⟩ := hnumber.exists_cons
    unfold readSigned
    -- A digit is neither of the two signs.
    split
    · rename_i heq
      rw [(List.cons.inj heq).1] at hc
      cases hc
    · rename_i heq
      rw [(List.cons.inj heq).1] at hc
      cases hc
    · rw [hread]
      rfl
  | @plus ds n hnumber =>
    rw [List.cons_append, readSigned, readNumber_append hnumber (by omega) (by simp) hrest]
    rfl
  | @minus ds n hnumber =>
    rw [List.cons_append, readSigned, readNumber_append hnumber (by omega) (by simp) hrest]
    rfl

/-- A year begins with a sign or with a digit. -/
theorem SpellsYear.isBlank_head {text : List Char} {year : Int} (h : SpellsYear text year)
    (rest : List Char) : ∀ c ∈ (text ++ rest).head?, isBlank c = false := by
  cases h with
  | plain hnumber _ =>
    obtain ⟨c, tail, rfl, hc⟩ := hnumber.exists_cons
    rintro d ⟨⟩
    exact isBlank_of_isDigit hc
  | plus _ => rintro d ⟨⟩; decide
  | minus _ => rintro d ⟨⟩; decide

/-- What is read as a year is white space and a year. -/
theorem of_readYear_eq_ok {cs rest : List Char} {year : Int} (h : readYear cs = .ok (year, rest)) :
    ∃ blank text, IsBlankText blank ∧ SpellsYear text year ∧ cs = blank ++ text ++ rest := by
  obtain ⟨blank, hblank, hcs⟩ := exists_blank_append_dropBlanks cs
  rw [readYear_eq] at h
  obtain ⟨r, hread, h⟩ := bind_eq_ok_iff.mp h
  split at h
  · cases h
    obtain ⟨text, htext, hrest⟩ := of_readSigned_eq_ok hread
    exact ⟨blank, text, hblank, htext, by rw [hcs, hrest, List.append_assoc]⟩
  · cases h

/-- A year of the calendar is read behind any white space. -/
theorem readYear_append {blank text rest : List Char} {year : Int} (hblank : IsBlankText blank)
    (h : SpellsYear text year) (hyear : -262143 ≤ year ∧ year ≤ 262142)
    (hrest : EndsDigits rest) :
    readYear (blank ++ text ++ rest) = .ok (year, rest) := by
  have h31 : twoTo 31 = 2147483648 := rfl
  have hrange : -(twoTo 31 : Int) ≤ year ∧ year < twoTo 31 := by omega
  rw [readYear_eq, List.append_assoc, dropBlanks_append hblank (h.isBlank_head rest),
    readSigned_append h hyear hrest]
  exact if_pos hrange

/-- What is read as a month or a day is white space and one or two digits. -/
theorem of_readPart_eq_ok {greatest n : Nat} {cs rest : List Char}
    (h : readPart greatest cs = .ok (n, rest)) :
    ∃ blank ds, IsBlankText blank ∧ SpellsPart ds n ∧ cs = blank ++ ds ++ rest := by
  obtain ⟨blank, hblank, hcs⟩ := exists_blank_append_dropBlanks cs
  unfold readPart at h
  obtain ⟨⟨m, left⟩, hread, h⟩ := bind_eq_ok_iff.mp h
  dsimp only at h
  split at h
  · cases h
    obtain ⟨ds, hds, hnumber, hlength⟩ := of_readNumber_eq_ok (by simp) hread
    exact ⟨blank, ds, hblank, ⟨hnumber, hlength 2 rfl⟩, by rw [hcs, hds, List.append_assoc]⟩
  · cases h

/-- One or two digits are read as a month or a day, or they are out of range. -/
theorem readPart_append {greatest n : Nat} {blank ds rest : List Char} (hblank : IsBlankText blank)
    (h : SpellsPart ds n) (hrest : EndsDigits rest) :
    readPart greatest (blank ++ ds ++ rest) =
      if 1 ≤ n ∧ n ≤ greatest then .ok (n, rest) else .error .outOfRange := by
  have hfits : n < twoTo 63 := by
    have hlt := decimalNumber_lt h.digits
    have hpower : tenTo ds.length ≤ tenTo 2 := Nat.pow_le_pow_right (by decide) h.length
    rw [h.value] at hlt
    exact Nat.lt_of_lt_of_le hlt (Nat.le_trans hpower (by decide))
  have hread : readNumber (some 2) (ds ++ rest) = .ok (n, rest) :=
    readNumber_append h.toSpellsNumber hfits (by rintro k ⟨⟩; exact h.length) hrest
  obtain ⟨c, tail, rfl, hc⟩ := h.exists_cons
  unfold readPart
  rw [List.append_assoc,
    dropBlanks_append hblank (by rintro d ⟨⟩; exact isBlank_of_isDigit hc), hread]
  rfl

theorem readDash_eq_ok_iff {cs rest : List Char} : readDash cs = .ok rest ↔ cs = '-' :: rest := by
  unfold readDash
  split <;> simp_all

/-! ## 4. Dates -/

/-- The date of a year, month and day; they are out of range where the calendar has none. -/
def ofCivil (year : Int) (month day : Nat) : Except DateFault Date :=
  match Date.ofCivil? year month day with
  | some date => .ok date
  | none => .error .outOfRange

/-- A date is found for its own year, month and day alone. -/
theorem ofCivil_eq_ok_iff {year : Int} {month day : Nat} {date : Date} :
    ofCivil year month day = .ok date ↔
      date.year = year ∧ date.month = month ∧ date.day = day := by
  unfold ofCivil Date.ofCivil?
  constructor
  · intro h
    split at h
    · rename_i found hfound
      cases h
      split at hfound
      · split at hfound
        · split at hfound
          · cases hfound
            exact ⟨rfl, rfl, rfl⟩
          · cases hfound
        · cases hfound
      · cases hfound
    · cases h
  · rintro ⟨rfl, rfl, rfl⟩
    rw [dif_pos date.year_range, dif_pos date.month_range, dif_pos date.day_range]

/-- Numbers that the calendar does not have are out of range. -/
theorem ofCivil_eq_error {year : Int} {month day : Nat} (h : ¬ Date.InCalendar year month day) :
    ofCivil year month day = .error .outOfRange := by
  cases hcivil : ofCivil year month day with
  | ok date =>
    obtain ⟨rfl, rfl, rfl⟩ := ofCivil_eq_ok_iff.mp hcivil
    exact absurd (Date.inCalendar_iff.mpr ⟨date.month_range, date.day_range⟩) h
  | error fault =>
    unfold ofCivil at hcivil
    split at hcivil <;> cases hcivil
    rfl

/-- Reading a date, stage by stage. -/
theorem readAll_eq (cs : List Char) : readAll cs = (do
    let year ← readYear cs
    let afterYear ← readDash year.2
    let month ← readPart 12 afterYear
    let afterMonth ← readDash month.2
    let day ← readPart 31 afterMonth
    if day.2 = [] then ofCivil year.1 month.1 day.1 else .error .tooLong) := by
  unfold readAll
  refine bind_congr fun year => bind_congr fun afterYear => bind_congr fun month =>
    bind_congr fun afterMonth => bind_congr fun day => ?_
  obtain ⟨day, _ | ⟨c, rest⟩⟩ := day <;> rfl

/-- A text that is made of the parts of a date is read as what the calendar has for them. -/
theorem readAll_parts {beforeYear yearText beforeMonth monthText beforeDay dayText : List Char}
    {year : Int} {month day : Nat} (hyear : SpellsYear yearText year)
    (hmonth : SpellsPart monthText month) (hday : SpellsPart dayText day)
    (hrange : -262143 ≤ year ∧ year ≤ 262142) (hyearBlank : IsBlankText beforeYear)
    (hmonthBlank : IsBlankText beforeMonth) (hdayBlank : IsBlankText beforeDay) :
    readAll (beforeYear ++ yearText ++ '-' ::
      (beforeMonth ++ monthText ++ '-' :: (beforeDay ++ dayText))) = ofCivil year month day := by
  have hdash : ∀ rest, EndsDigits ('-' :: rest) := endsDigits_cons (by decide)
  have hend : EndsDigits [] := fun _ h => nomatch h
  rw [← List.append_nil (beforeDay ++ dayText), readAll_eq,
    readYear_append hyearBlank hyear hrange (hdash _)]
  change readPart 12 (beforeMonth ++ monthText ++ _) >>= _ = _
  rw [readPart_append hmonthBlank hmonth (hdash _)]
  -- Months and days out of range are refused at once, others only by the calendar. It is the same
  -- error.
  by_cases hm : 1 ≤ month ∧ month ≤ 12
  · rw [if_pos hm]
    change readPart 31 (beforeDay ++ dayText ++ []) >>= _ = _
    rw [readPart_append hdayBlank hday hend]
    by_cases hd : 1 ≤ day ∧ day ≤ 31
    · rw [if_pos hd]
      rfl
    · rw [if_neg hd, ofCivil_eq_error fun hdate => hd hdate.day_range]
      rfl
  · rw [if_neg hm, ofCivil_eq_error fun hdate => hm hdate.month_range]
    rfl

/-- **A text is read as a date exactly where it spells the date.** -/
theorem readAll_eq_ok_iff {cs : List Char} {date : Date} :
    readAll cs = .ok date ↔ Spells cs date := by
  constructor
  · intro h
    rw [readAll_eq] at h
    obtain ⟨year, hyear, h⟩ := bind_eq_ok_iff.mp h
    obtain ⟨afterYear, hdash, h⟩ := bind_eq_ok_iff.mp h
    obtain ⟨month, hmonth, h⟩ := bind_eq_ok_iff.mp h
    obtain ⟨afterMonth, hdash', h⟩ := bind_eq_ok_iff.mp h
    obtain ⟨⟨day, rest⟩, hday, h⟩ := bind_eq_ok_iff.mp h
    -- Nothing is left behind the day. Each part gives a piece of the text, from the front on.
    split at h
    · rename_i hend
      obtain ⟨hy, hm, hd⟩ := ofCivil_eq_ok_iff.mp h
      obtain ⟨beforeYear, yearText, hyearBlank, hyearText, rfl⟩ := of_readYear_eq_ok hyear
      rw [readDash_eq_ok_iff.mp hdash]
      obtain ⟨beforeMonth, monthText, hmonthBlank, hmonthText, rfl⟩ := of_readPart_eq_ok hmonth
      rw [readDash_eq_ok_iff.mp hdash']
      obtain ⟨beforeDay, dayText, hdayBlank, hdayText, rfl⟩ := of_readPart_eq_ok hday
      rw [show rest = [] from hend, List.append_nil]
      exact .parts (hy ▸ hyearText) (hm ▸ hmonthText) (hd ▸ hdayText) hyearBlank hmonthBlank
        hdayBlank
    · cases h
  · rintro ⟨hyear, hmonth, hday, hyearBlank, hmonthBlank, hdayBlank⟩
    rw [readAll_parts hyear hmonth hday date.year_range hyearBlank hmonthBlank hdayBlank]
    exact ofCivil_eq_ok_iff.mpr ⟨rfl, rfl, rfl⟩

/-! ## 5. The full form -/

/-- The numbers of a year, a month and a day. -/
structure Civil where
  year : Nat
  month : Nat
  day : Nat

/-- The numbers are those of a date. -/
def Civil.Names (civil : Civil) (date : Date) : Prop :=
  date.year = civil.year ∧ date.month = civil.month ∧ date.day = civil.day

/-- Four digits, two and two, with dashes between them, and the numbers that they spell. -/
inductive FullForm : List Char → Civil → Prop
  | digits {ys ms ds : List Char} {civil : Civil} (year_spelled : SpellsNumber ys civil.year)
    (month_spelled : SpellsNumber ms civil.month) (day_spelled : SpellsNumber ds civil.day)
    (year_length : ys.length = 4) (month_length : ms.length = 2) (day_length : ds.length = 2) :
    FullForm (ys ++ '-' :: (ms ++ '-' :: ds)) civil

theorem FullForm.year_lt {cs : List Char} {civil : Civil} (h : FullForm cs civil) :
    civil.year < 10000 := by
  obtain ⟨hyear, -, -, hlength, -, -⟩ := h
  have hlt := decimalNumber_lt hyear.digits
  rwa [hyear.value, hlength] at hlt

/-- A text in full form is read as the day of the calendar with its numbers. -/
theorem readAll_fullForm {cs : List Char} {civil : Civil} (h : FullForm cs civil) :
    readAll cs = ofCivil civil.year civil.month civil.day := by
  have hlt := h.year_lt
  obtain ⟨hyear, hmonth, hday, hys, hms, hds⟩ := h
  have hnone : IsBlankText [] := fun _ hc => nomatch hc
  have hread := readAll_parts (.plain hyear (by omega)) ⟨hmonth, by omega⟩ ⟨hday, by omega⟩
    (by omega) hnone hnone hnone
  simpa only [List.nil_append] using hread

/-- The full form has ten characters. -/
theorem FullForm.length {cs : List Char} {civil : Civil} (h : FullForm cs civil) :
    cs.length = 10 := by
  obtain ⟨-, -, -, hys, hms, hds⟩ := h
  simp only [List.length_append, List.length_cons]
  omega

/-- Every character of a text in full form is a digit or a dash, the first one a digit. -/
theorem FullForm.characters {cs : List Char} {civil : Civil} (h : FullForm cs civil) :
    (∀ c ∈ cs.head?, c.isDigit = true) ∧ ∀ c ∈ cs, c.isDigit = true ∨ c = '-' := by
  obtain ⟨hyear, hmonth, hday, -, -, -⟩ := h
  constructor
  · obtain ⟨c, tail, rfl, hc⟩ := hyear.exists_cons
    rintro d ⟨⟩
    exact hc
  · intro c hc
    simp only [List.mem_append, List.mem_cons] at hc
    rcases hc with hc | rfl | hc | rfl | hc
    · exact Or.inl (hyear.digits c hc)
    · exact Or.inr rfl
    · exact Or.inl (hmonth.digits c hc)
    · exact Or.inr rfl
    · exact Or.inl (hday.digits c hc)

/-- A text in full form that is the rendering of a date. -/
def IsStrict (raw : String) (date : Date) : Prop :=
  (∃ civil, FullForm raw.toList civil) ∧ raw = date.text

/-- Ten characters, of which the first is a digit and none is white space. -/
structure IsPlain (raw : String) : Prop where
  length : raw.length = 10
  begins : ∀ c ∈ raw.toList.head?, c.isDigit = true
  unspaced : ∀ c ∈ raw.toList, isBlank c = false

/-- Digits are determined by their number and their length. -/
theorem eq_padded {ds : List Char} {n width : Nat} (h : SpellsNumber ds n)
    (hlength : ds.length = width) : ds = Date.padded width n := by
  rw [← hlength, ← h.value, Date.padded_decimalNumber h.digits h.nonempty]

/-- A number that fits its width is spelled by its padding. -/
theorem spellsNumber_padded {width n : Nat} (hwidth : 0 < width) (hn : n < tenTo width) :
    SpellsNumber (Date.padded width n) n where
  digits _ := Date.isDigit_of_mem_padded
  nonempty h := by
    have hlength := Date.length_padded hwidth hn
    rw [h, List.length_nil] at hlength
    omega
  value := Date.decimalNumber_padded width n

/-- The rendering of a year of four digits has full form; every other one begins with a sign. -/
theorem fullForm_write {date : Date} (h : 0 ≤ date.year ∧ date.year ≤ 9999) :
    FullForm date.write ⟨date.year.toNat, date.month, date.day⟩ := by
  have hmonth := date.month_range
  have hday := date.day_range
  have hlast := daysInMonth_le date.year date.month
  have hten : tenTo 4 = 10000 ∧ tenTo 2 = 100 := ⟨rfl, rfl⟩
  have hy : date.year.toNat < tenTo 4 := by omega
  have hm : date.month < tenTo 2 := by omega
  have hd : date.day < tenTo 2 := by omega
  unfold Date.write
  rw [if_pos h]
  exact .digits (spellsNumber_padded (by decide) hy) (spellsNumber_padded (by decide) hm)
    (spellsNumber_padded (by decide) hd) (Date.length_padded (by decide) hy)
    (Date.length_padded (by decide) hm) (Date.length_padded (by decide) hd)

/-- A year below zero or above 9999 is written with a sign. -/
theorem head_write {date : Date} (h : ¬ (0 ≤ date.year ∧ date.year ≤ 9999)) :
    ∃ c rest, date.write = c :: rest ∧ c.isDigit = false := by
  unfold Date.write
  rw [if_neg h]
  refine ⟨_, _, rfl, ?_⟩
  split <;> decide

theorem eq_nil_of_isBlankText {cs : List Char} (h : IsBlankText cs)
    (hnone : ∀ c ∈ cs, isBlank c = false) : cs = [] :=
  List.eq_nil_iff_forall_not_mem.mpr fun c hc => by
    have hblank := h c hc
    rw [hnone c hc] at hblank
    cases hblank

/-- The rendering of a date spells it where it has full form. -/
theorem spells_write {date : Date} {civil : Civil} (h : FullForm date.write civil) :
    Spells date.write date := by
  by_cases hyear : 0 ≤ date.year ∧ date.year ≤ 9999
  · rw [← readAll_eq_ok_iff, readAll_fullForm (fullForm_write hyear), ofCivil_eq_ok_iff]
    exact ⟨(Int.toNat_of_nonneg hyear.1).symm, rfl, rfl⟩
  · obtain ⟨c, rest, hcons, hc⟩ := head_write hyear
    have hdigit := h.characters.1 c (by rw [hcons]; rfl)
    rw [hc] at hdigit
    cases hdigit

/-- Ten characters are as many as the year, the month and the day can have together. -/
theorem fullForm_of_spells {cs : List Char} {date : Date} (h : Spells cs date)
    (hlength : cs.length = 10) (hbegins : ∀ c ∈ cs.head?, c.isDigit = true)
    (hunspaced : ∀ c ∈ cs, isBlank c = false) :
    (∃ civil, FullForm cs civil) ∧ cs = date.write := by
  obtain @⟨_, ys, _, _, _, _, _, hyear, hmonth, hday, hyearBlank, hmonthBlank, hdayBlank⟩ := h
  -- Without white space only the three numbers and two dashes are left.
  obtain rfl := eq_nil_of_isBlankText hyearBlank fun c hc => hunspaced c (by simp [hc])
  obtain rfl := eq_nil_of_isBlankText hmonthBlank fun c hc => hunspaced c (by simp [hc])
  obtain rfl := eq_nil_of_isBlankText hdayBlank fun c hc => hunspaced c (by simp [hc])
  have hmonthTwo := hmonth.length
  have hdayTwo := hday.length
  simp only [List.nil_append, List.length_append, List.length_cons] at hbegins hlength ⊢
  generalize hy : date.year = year at hyear
  cases hyear with
  | @plain _ n hnumber hfour =>
    -- Ten characters leave the year four, as month and day have two each at most.
    have hys : ys.length = 4 := by omega
    have hform : FullForm _ ⟨n, date.month, date.day⟩ := .digits hnumber hmonth.toSpellsNumber
      hday.toSpellsNumber hys (by omega) (by omega)
    have hlt : n < 10000 := hform.year_lt
    refine ⟨⟨_, hform⟩, ?_⟩
    unfold Date.write
    rw [if_pos (by omega), hy, Int.toNat_natCast, ← eq_padded hnumber hys,
      ← eq_padded hmonth.toSpellsNumber (by omega), ← eq_padded hday.toSpellsNumber (by omega)]
  | plus _ => cases hbegins '+' rfl
  | minus _ => cases hbegins '-' rfl

/-- **The renderings among the texts that spell a date.** -/
theorem isStrict_iff {raw : String} {date : Date} :
    IsStrict raw date ↔ Spells raw.toList date ∧ IsPlain raw := by
  have htext : raw = date.text ↔ raw.toList = date.write := by
    rw [← String.toList_inj, Date.text, String.toList_ofList]
  unfold IsStrict
  rw [htext]
  constructor
  · rintro ⟨⟨civil, hform⟩, hwrite⟩
    obtain ⟨hbegins, hcharacters⟩ := hform.characters
    have hlength := hform.length
    rw [String.length_toList] at hlength
    refine ⟨?_, hlength, hbegins, fun c hc => ?_⟩
    · rw [hwrite] at hform ⊢
      exact spells_write hform
    · rcases hcharacters c hc with hdigit | rfl
      · exact isBlank_of_isDigit hdigit
      · decide
  · rintro ⟨hspells, hlength, hbegins, hunspaced⟩
    rw [← String.length_toList] at hlength
    exact fullForm_of_spells hspells hlength hbegins hunspaced

end ShopQuery.DateText
