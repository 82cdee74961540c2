import ShopQuery.Proofs.Calendar.DateText
import ShopQuery.Request.Period

/-!
# Periods of requests

Which requests have a period, and what the others are refused with.

* `ofRequest_eq_ok_iff`: a request has a period exactly where the texts of both bounds spell dates
  that are in order.
* `ofRequest_strict_iff`: it is read strictly, with nothing but the renderings of dates for texts,
  exactly where its texts, if both spell dates, are plain ones.
* `ofRequest_eq_iff_decision`: with texts in full form, it comes to what `Decision` says, case by
  case.

## Spelling, rendering, full form

A text spells a date (`Spells`) where its three numbers are those of the date: a month may have one
digit, a year fewer than four or, with a sign, more, and blanks may stand before each. The rendering
of a date is one of the texts that spell it. One that spells a date and is no rendering is read
all the same, and that is the only way in which reading is not strict: what spells no date is no
rendering either. So the two can be told apart only if both texts are read, which is why that is the
condition under which `ofRequest_strict_iff` asks for plain texts.

A text in full form (`FullForm`) has four digits, two and two. It may still name no day, and with
these texts only three things are left to go wrong: a bound is not there, it names no day of the
calendar, or the days are in the wrong order. `Decision` has a case for each of these at each bound,
with the conditions of the earlier cases denied in it. So at most one case is that of a request.

## How the proof goes

Bounds come first. What a bound is read as is known for every text (`readBound_eq_ok_iff`,
`readBound_eq_error`), and the reading of a request is the reading of two bounds in turn
(`ofRequest_of_hasText`), the start first. Everything else is a case split on whether the bounds are
there and whether they are read. `ofRequest_eq_iff_decision` is proved in one direction by computing
each case (`ofRequest_of_decision`). The other direction needs only that there is a case
(`exists_decision`), as the request comes to one outcome.
-/

namespace ShopQuery

open DateText

namespace Period

variable {request : Json} {field : DateField} {raw start finish : String}

/-! ## 1. Bounds -/

/-- The request has a text at a bound. -/
def HasText (request : Json) (field : DateField) (raw : String) : Prop :=
  request.member? field.key = some (.string raw)

theorem HasText.unique {other : String} (h : HasText request field raw)
    (hother : HasText request field other) : raw = other := by
  have heq := Option.some.inj (h.symm.trans hother)
  exact Json.string.inj heq

theorem boundText_eq_ok_iff : boundText request field = .ok raw ↔ HasText request field raw := by
  unfold boundText HasText
  cases hmember : request.member? field.key with
  | none => simp
  | some value => cases value <;> simp [Json.string?]

theorem boundText_eq_error (h : ∀ raw, ¬ HasText request field raw) :
    boundText request field = .error (.missingDateField field) := by
  cases hbound : boundText request field with
  | ok raw => exact absurd (boundText_eq_ok_iff.mp hbound) (h raw)
  | error e =>
    unfold boundText at hbound
    split at hbound <;> cases hbound
    rfl

theorem readBound_eq_ok_iff {date : Date} :
    readBound raw = .ok date ↔ Spells raw.toList date := by
  unfold readBound Date.read
  rw [mapError_eq_ok_iff, readAll_eq_ok_iff]

/-- What is no date is refused as that. -/
theorem readBound_eq_error (h : ¬ ∃ date, Spells raw.toList date) :
    ∃ detail, readBound raw = .error (.invalidDateFormat detail) := by
  cases hread : readBound raw with
  | ok date => exact absurd ⟨date, readBound_eq_ok_iff.mp hread⟩ h
  | error e =>
    obtain ⟨fault, -, rfl⟩ := mapError_eq_error_iff.mp hread
    exact ⟨_, rfl⟩

/-- A text in full form is read as the day of the calendar that it names. -/
theorem readBound_fullForm {civil : Civil} {date : Date} (h : FullForm raw.toList civil)
    (hnames : civil.Names date) : readBound raw = .ok date := by
  unfold readBound Date.read
  rw [readAll_fullForm h, ofCivil_eq_ok_iff.mpr hnames]
  rfl

theorem readBound_fullForm_eq_error {civil : Civil} (h : FullForm raw.toList civil)
    (hcivil : ¬ Date.InCalendar civil.year civil.month civil.day) :
    readBound raw = .error
      (.invalidDateFormat s!"Unparseable date: \"{raw}\" ({DateFault.outOfRange.message})") := by
  unfold readBound Date.read
  rw [readAll_fullForm h, ofCivil_eq_error hcivil]
  rfl

/-! ## 2. Periods -/

/-- With both texts there, they are read one after the other and compared. -/
theorem ofRequest_of_hasText (hstart : HasText request .start start)
    (hfinish : HasText request .finish finish) :
    ofRequest request = (do ofBounds (← readBound start) (← readBound finish)) := by
  unfold ofRequest
  rw [boundText_eq_ok_iff.mpr hstart, boundText_eq_ok_iff.mpr hfinish]
  rfl

theorem ofBounds_eq_ok_iff {first last : Date} {period : Period} :
    ofBounds first last = .ok period ↔ period.start = first ∧ period.finish = last := by
  unfold ofBounds
  constructor
  · intro h
    split at h <;> cases h
    exact ⟨rfl, rfl⟩
  · rintro ⟨rfl, rfl⟩
    rw [dif_pos period.ordered]

/-- A request has a period exactly where the texts of both bounds spell its days. -/
theorem ofRequest_eq_ok_iff {period : Period} :
    ofRequest request = .ok period ↔ ∃ start finish,
      HasText request .start start ∧ HasText request .finish finish ∧
        Spells start.toList period.start ∧ Spells finish.toList period.finish := by
  constructor
  · intro h
    unfold ofRequest at h
    obtain ⟨start, hstart, h⟩ := bind_eq_ok_iff.mp h
    obtain ⟨finish, hfinish, h⟩ := bind_eq_ok_iff.mp h
    obtain ⟨first, hfirst, h⟩ := bind_eq_ok_iff.mp h
    obtain ⟨last, hlast, h⟩ := bind_eq_ok_iff.mp h
    obtain ⟨rfl, rfl⟩ := ofBounds_eq_ok_iff.mp h
    exact ⟨start, finish, boundText_eq_ok_iff.mp hstart, boundText_eq_ok_iff.mp hfinish,
      readBound_eq_ok_iff.mp hfirst, readBound_eq_ok_iff.mp hlast⟩
  · rintro ⟨start, finish, hstart, hfinish, hfirst, hlast⟩
    rw [ofRequest_of_hasText hstart hfinish, readBound_eq_ok_iff.mpr hfirst,
      readBound_eq_ok_iff.mpr hlast]
    exact ofBounds_eq_ok_iff.mpr ⟨rfl, rfl⟩

/-- A text that spells no date is refused as that, whichever bound it stands at. -/
theorem ofRequest_eq_error (hstart : HasText request .start start)
    (hfinish : HasText request .finish finish)
    (h : (¬ ∃ date, Spells start.toList date) ∨ ¬ ∃ date, Spells finish.toList date) :
    ∃ detail, ofRequest request = .error (.invalidDateFormat detail) := by
  rw [ofRequest_of_hasText hstart hfinish]
  by_cases hfirst : ∃ date, Spells start.toList date
  · obtain ⟨date, hdate⟩ := hfirst
    obtain ⟨detail, hdetail⟩ := readBound_eq_error (h.resolve_left fun hno => hno ⟨date, hdate⟩)
    rw [readBound_eq_ok_iff.mpr hdate, hdetail]
    exact ⟨detail, rfl⟩
  · obtain ⟨detail, hdetail⟩ := readBound_eq_error hfirst
    rw [hdetail]
    exact ⟨detail, rfl⟩

/-- Where both texts spell dates, only the order of the dates is left to object to. -/
theorem ofRequest_of_spells {first last : Date} (hstart : HasText request .start start)
    (hfinish : HasText request .finish finish) (hfirst : Spells start.toList first)
    (hlast : Spells finish.toList last) :
    (∃ period, ofRequest request = .ok period) ∨ ofRequest request = .error .invalidDateRange := by
  rw [ofRequest_of_hasText hstart hfinish, readBound_eq_ok_iff.mpr hfirst,
    readBound_eq_ok_iff.mpr hlast]
  change (∃ period, ofBounds first last = .ok period) ∨ ofBounds first last = _
  unfold ofBounds
  split
  · exact Or.inl ⟨_, rfl⟩
  · exact Or.inr rfl

/-! ## 3. Strict reading -/

/-- The request is read strictly: its period is there only with the renderings of dates as texts,
and a text that is no rendering is refused as no date. -/
structure IsReadStrictly (request : Json) : Prop where
  accepted : ∀ period, ofRequest request = .ok period → ∃ start finish,
    HasText request .start start ∧ HasText request .finish finish ∧
      IsStrict start period.start ∧ IsStrict finish period.finish
  refused : ∀ start finish, HasText request .start start → HasText request .finish finish →
    ((¬ ∃ date, IsStrict start date) ∨ ¬ ∃ date, IsStrict finish date) →
      ∃ detail, ofRequest request = .error (.invalidDateFormat detail)

/-- Texts that both spell dates are plain ones where the request is read strictly. -/
theorem IsReadStrictly.isPlain {first last : Date} (h : IsReadStrictly request)
    (hstart : HasText request .start start) (hfinish : HasText request .finish finish)
    (hfirst : Spells start.toList first) (hlast : Spells finish.toList last) :
    IsPlain start ∧ IsPlain finish := by
  by_contra hplain
  -- otherwise one of them is the rendering of no date, although both are read
  have hunstrict : (¬ ∃ date, IsStrict start date) ∨ ¬ ∃ date, IsStrict finish date := by
    rw [← not_and_or]
    rintro ⟨⟨_, hs⟩, _, hf⟩
    exact hplain ⟨(isStrict_iff.mp hs).2, (isStrict_iff.mp hf).2⟩
  obtain ⟨detail, hrefused⟩ := h.refused start finish hstart hfinish hunstrict
  rcases ofRequest_of_spells hstart hfinish hfirst hlast with ⟨period, hread⟩ | hread <;>
    rw [hrefused] at hread <;> cases hread

/-- **A request is read strictly exactly where its texts, if both spell dates, are plain ones; what
has a period at all are two texts that spell its days.** -/
theorem ofRequest_strict_iff (request : Json) :
    (∀ period, ofRequest request = .ok period ↔ ∃ start finish,
      HasText request .start start ∧ HasText request .finish finish ∧
        Spells start.toList period.start ∧ Spells finish.toList period.finish) ∧
    (IsReadStrictly request ↔ ∀ start finish,
      HasText request .start start → HasText request .finish finish →
        (∃ date, Spells start.toList date) → (∃ date, Spells finish.toList date) →
          IsPlain start ∧ IsPlain finish) := by
  refine ⟨fun _ => ofRequest_eq_ok_iff, ?_, fun h => ⟨?_, ?_⟩⟩
  · rintro h start finish hstart hfinish ⟨first, hfirst⟩ ⟨last, hlast⟩
    exact h.isPlain hstart hfinish hfirst hlast
  · intro period hread
    obtain ⟨start, finish, hstart, hfinish, hfirst, hlast⟩ := ofRequest_eq_ok_iff.mp hread
    obtain ⟨hs, hf⟩ := h start finish hstart hfinish ⟨_, hfirst⟩ ⟨_, hlast⟩
    exact ⟨start, finish, hstart, hfinish, isStrict_iff.mpr ⟨hfirst, hs⟩,
      isStrict_iff.mpr ⟨hlast, hf⟩⟩
  · intro start finish hstart hfinish hunstrict
    refine ofRequest_eq_error hstart hfinish ?_
    by_contra hspelled
    obtain ⟨hfirst, hlast⟩ := not_or.mp hspelled
    obtain ⟨⟨first, hfirst⟩, last, hlast⟩ := And.intro (not_not.mp hfirst) (not_not.mp hlast)
    obtain ⟨hs, hf⟩ := h start finish hstart hfinish ⟨first, hfirst⟩ ⟨last, hlast⟩
    rcases hunstrict with hno | hno
    · exact hno ⟨first, isStrict_iff.mpr ⟨hfirst, hs⟩⟩
    · exact hno ⟨last, isStrict_iff.mpr ⟨hlast, hf⟩⟩

/-- A request with a month and a day of one digit each. -/
def shortParts : Json :=
  .object [("startDate", .string "2024-1-5"), ("endDate", .string "2024-01-31")]

/-- It has a period, so it is not read strictly. -/
theorem ofRequest_reads_short_parts :
    (∃ period, ofRequest shortParts = .ok period ∧ period.start.text = "2024-01-05") ∧
      ¬ IsReadStrictly shortParts := by
  have hread : ofRequest shortParts =
      .ok ⟨⟨2024, 1, 5, by decide, by decide, by decide⟩,
        ⟨2024, 1, 31, by decide, by decide, by decide⟩, by decide⟩ := by rfl
  refine ⟨⟨_, hread, by decide⟩, fun h => ?_⟩
  obtain ⟨start, finish, hstart, hfinish, hs, -⟩ := h.accepted _ hread
  obtain rfl : start = "2024-1-5" := hstart.unique rfl
  exact absurd (isStrict_iff.mp hs).2.length (by decide)

/-! ## 4. Texts in full form -/

/-- Not after another day, by year, then by month, then by day. -/
def NotAfter (a b : Civil) : Prop :=
  a.year < b.year ∨ a.year = b.year ∧
    (a.month < b.month ∨ a.month = b.month ∧ a.day ≤ b.day)

theorem le_iff_notAfter {a b : Civil} {first last : Date} (ha : a.Names first)
    (hb : b.Names last) : first ≤ last ↔ NotAfter a b := by
  obtain ⟨hyear, hmonth, hday⟩ := ha
  obtain ⟨hyear', hmonth', hday'⟩ := hb
  rw [Date.le_iff_civil, hyear, hmonth, hday, hyear', hmonth', hday']
  unfold NotAfter
  omega

/-- The days of the calendar with a year of four digits are dates. -/
theorem exists_names {cs : List Char} {civil : Civil} (h : FullForm cs civil)
    (hcivil : Date.InCalendar civil.year civil.month civil.day) :
    ∃ date, civil.Names date := by
  obtain ⟨hmonth, hday⟩ := Date.inCalendar_iff.mp hcivil
  have hyear := h.year_lt
  exact ⟨⟨civil.year, civil.month, civil.day, by omega, hmonth, hday⟩, rfl, rfl, rfl⟩

/-- What a request with texts in full form comes to. -/
inductive Decision (request : Json) : Except Error Period → Prop
  | noStart (missing : ∀ raw, ¬ HasText request .start raw) :
    Decision request (.error (.missingDateField .start))
  | noFinish {start : String} (start_there : HasText request .start start)
    (missing : ∀ raw, ¬ HasText request .finish raw) :
    Decision request (.error (.missingDateField .finish))
  | startNoDate {start finish : String} {a : Civil} (start_there : HasText request .start start)
    (finish_there : HasText request .finish finish) (start_form : FullForm start.toList a)
    (no_date : ¬ Date.InCalendar a.year a.month a.day) :
    Decision request (.error
      (.invalidDateFormat s!"Unparseable date: \"{start}\" ({DateFault.outOfRange.message})"))
  | finishNoDate {start finish : String} {a b : Civil} (start_there : HasText request .start start)
    (finish_there : HasText request .finish finish) (start_form : FullForm start.toList a)
    (finish_form : FullForm finish.toList b) (start_date : Date.InCalendar a.year a.month a.day)
    (no_date : ¬ Date.InCalendar b.year b.month b.day) :
    Decision request (.error
      (.invalidDateFormat s!"Unparseable date: \"{finish}\" ({DateFault.outOfRange.message})"))
  | wrongOrder {start finish : String} {a b : Civil} (start_there : HasText request .start start)
    (finish_there : HasText request .finish finish) (start_form : FullForm start.toList a)
    (finish_form : FullForm finish.toList b) (start_date : Date.InCalendar a.year a.month a.day)
    (finish_date : Date.InCalendar b.year b.month b.day) (after : ¬ NotAfter a b) :
    Decision request (.error .invalidDateRange)
  | period {start finish : String} {a b : Civil} {period : Period}
    (start_there : HasText request .start start) (finish_there : HasText request .finish finish)
    (start_form : FullForm start.toList a) (finish_form : FullForm finish.toList b)
    (in_order : NotAfter a b) (start_named : a.Names period.start)
    (finish_named : b.Names period.finish) :
    Decision request (.ok period)

theorem ofRequest_of_decision {outcome : Except Error Period} (h : Decision request outcome) :
    ofRequest request = outcome := by
  cases h with
  | noStart missing =>
    unfold ofRequest
    rw [boundText_eq_error missing]
    rfl
  | noFinish start_there missing =>
    unfold ofRequest
    rw [boundText_eq_ok_iff.mpr start_there, boundText_eq_error missing]
    rfl
  | startNoDate start_there finish_there start_form no_date =>
    rw [ofRequest_of_hasText start_there finish_there,
      readBound_fullForm_eq_error start_form no_date]
    rfl
  | finishNoDate start_there finish_there start_form finish_form start_date no_date =>
    obtain ⟨first, hfirst⟩ := exists_names start_form start_date
    rw [ofRequest_of_hasText start_there finish_there, readBound_fullForm start_form hfirst,
      readBound_fullForm_eq_error finish_form no_date]
    rfl
  | wrongOrder start_there finish_there start_form finish_form start_date finish_date after =>
    obtain ⟨first, hfirst⟩ := exists_names start_form start_date
    obtain ⟨last, hlast⟩ := exists_names finish_form finish_date
    rw [ofRequest_of_hasText start_there finish_there, readBound_fullForm start_form hfirst,
      readBound_fullForm finish_form hlast]
    exact dif_neg (mt (le_iff_notAfter hfirst hlast).mp after)
  | period start_there finish_there start_form finish_form _ start_named finish_named =>
    rw [ofRequest_of_hasText start_there finish_there, readBound_fullForm start_form start_named,
      readBound_fullForm finish_form finish_named]
    exact ofBounds_eq_ok_iff.mpr ⟨rfl, rfl⟩

/-- Some case of the decision is that of the request. -/
theorem exists_decision
    (h : ∀ field raw, HasText request field raw → ∃ civil, FullForm raw.toList civil) :
    ∃ outcome, Decision request outcome := by
  by_cases hstart : ∃ raw, HasText request .start raw
  swap
  · exact ⟨_, .noStart (not_exists.mp hstart)⟩
  obtain ⟨start, hstart⟩ := hstart
  by_cases hfinish : ∃ raw, HasText request .finish raw
  swap
  · exact ⟨_, .noFinish hstart (not_exists.mp hfinish)⟩
  obtain ⟨finish, hfinish⟩ := hfinish
  obtain ⟨a, ha⟩ := h .start start hstart
  obtain ⟨b, hb⟩ := h .finish finish hfinish
  by_cases hfirst : Date.InCalendar a.year a.month a.day
  swap
  · exact ⟨_, .startNoDate hstart hfinish ha hfirst⟩
  by_cases hlast : Date.InCalendar b.year b.month b.day
  swap
  · exact ⟨_, .finishNoDate hstart hfinish ha hb hfirst hlast⟩
  by_cases horder : NotAfter a b
  · obtain ⟨first, hnames⟩ := exists_names ha hfirst
    obtain ⟨last, hnames'⟩ := exists_names hb hlast
    have hordered : first ≤ last := (le_iff_notAfter hnames hnames').mpr horder
    exact ⟨.ok ⟨first, last, hordered⟩, .period hstart hfinish ha hb horder hnames hnames'⟩
  · exact ⟨_, .wrongOrder hstart hfinish ha hb hfirst hlast horder⟩

/-- **What a request with texts in full form comes to is what the decision says.** -/
theorem ofRequest_eq_iff_decision
    (h : ∀ field raw, HasText request field raw → ∃ civil, FullForm raw.toList civil)
    (outcome : Except Error Period) :
    ofRequest request = outcome ↔ Decision request outcome := by
  constructor
  · rintro rfl
    obtain ⟨decided, hdecided⟩ := exists_decision h
    rwa [ofRequest_of_decision hdecided]
  · exact ofRequest_of_decision

/-- A request with two days that no calendar has. -/
def missingDays : Json :=
  .object [("endDate", .string "2024-02-30"), ("startDate", .string "2023-02-29")]

/-- The first of them is complained about. -/
theorem ofRequest_missing_leap_day :
    (∀ field raw, HasText missingDays field raw → ∃ civil, FullForm raw.toList civil) ∧
      ofRequest missingDays = .error
        (.invalidDateFormat "Unparseable date: \"2023-02-29\" (input is out of range)") := by
  have hstart : FullForm "2023-02-29".toList ⟨2023, 2, 29⟩ :=
    @FullForm.digits ['2', '0', '2', '3'] ['0', '2'] ['2', '9'] _
      ⟨by decide, rfl⟩ ⟨by decide, rfl⟩ ⟨by decide, rfl⟩ rfl rfl rfl
  have hfinish : FullForm "2024-02-30".toList ⟨2024, 2, 30⟩ :=
    @FullForm.digits ['2', '0', '2', '4'] ['0', '2'] ['3', '0'] _
      ⟨by decide, rfl⟩ ⟨by decide, rfl⟩ ⟨by decide, rfl⟩ rfl rfl rfl
  have hstartThere : HasText missingDays .start "2023-02-29" := by rfl
  have hfinishThere : HasText missingDays .finish "2024-02-30" := by rfl
  have hforms : ∀ field raw, HasText missingDays field raw →
      ∃ civil, FullForm raw.toList civil := by
    rintro (_ | _) raw hraw
    · obtain rfl := hraw.unique hstartThere
      exact ⟨_, hstart⟩
    · obtain rfl := hraw.unique hfinishThere
      exact ⟨_, hfinish⟩
  have hno : ¬ Date.InCalendar 2023 2 29 := fun hcivil => by
    have hday := (Date.inCalendar_iff.mp hcivil).2.2
    revert hday
    decide
  refine ⟨hforms, (ofRequest_eq_iff_decision hforms _).mpr ?_⟩
  exact .startNoDate hstartThere hfinishThere hstart hno

end Period

end ShopQuery
