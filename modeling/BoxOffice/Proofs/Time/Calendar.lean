import BoxOffice.Time.Calendar
import Mathlib.Tactic.IntervalCases

/-!
# Days by number

Every number names a day of the calendar, and the day has that number. A day of the 400-year cycle
is taken apart into centuries, spans of four years, years and days; the last day of a year that
begins in March is the leap day.
-/
namespace BoxOffice.CalendarDate

/-- A day of the cycle of 400 years, taken apart: whole centuries, then whole spans of four years,
then whole years, and days of a year that begins in March. -/
structure IsTakenApart (dayOfCycle century span year day : Int) : Prop where
  /-- There are four centuries. -/
  centuries : 0 ≤ century ∧ century ≤ 3
  /-- There are twenty-five spans in a century. -/
  spans : 0 ≤ span ∧ span ≤ 24
  /-- There are four years in a span. -/
  years : 0 ≤ year ∧ year ≤ 3
  /-- There are 366 days in a year. -/
  days : 0 ≤ day ∧ day ≤ 365
  /-- The parts make up the day. -/
  parts : dayOfCycle = 36524 * century + 1461 * span + 365 * year + day
  /-- A year has its leap day only as the last of a span, and the last of a century has it only as
  the last of the cycle. -/
  leap : day = 365 → year = 3 ∧ (span ≤ 23 ∨ century = 3)

/-- The year within the cycle of a day of the cycle. -/
def yearOfCycle (dayOfCycle : Int) : Int :=
  (dayOfCycle - dayOfCycle / 1460 + dayOfCycle / 36524 - dayOfCycle / 146096) / 365

/-- The days of a cycle before a year. -/
def daysBefore (year : Int) : Int := 365 * year + year / 4 - year / 100

/-- Each day of the cycle can be taken apart. -/
theorem exists_isTakenApart {dayOfCycle : Int} (low : 0 ≤ dayOfCycle) (high : dayOfCycle < 146097) :
    ∃ century span year day, IsTakenApart dayOfCycle century span year day := by
  by_cases last : dayOfCycle = 146096
  · exact ⟨3, 24, 3, 365, by omega, by omega, by omega, by omega, by omega, by omega⟩
  · obtain ⟨century, lowC, highC, within, most⟩ : ∃ century, 0 ≤ century ∧ century ≤ 3 ∧
        0 ≤ dayOfCycle - 36524 * century ∧ dayOfCycle - 36524 * century ≤ 36523 :=
      ⟨dayOfCycle / 36524, by omega, by omega, by omega, by omega⟩
    obtain ⟨ofCentury, rfl⟩ : ∃ ofCentury, dayOfCycle = 36524 * century + ofCentury :=
      ⟨dayOfCycle - 36524 * century, by omega⟩
    obtain ⟨span, ofSpan, rfl, lowS, highS, lowD, highD⟩ : ∃ span ofSpan,
        ofCentury = 1461 * span + ofSpan ∧ 0 ≤ span ∧ span ≤ 24 ∧ 0 ≤ ofSpan ∧ ofSpan ≤ 1460 :=
      ⟨ofCentury / 1461, ofCentury % 1461, by omega, by omega, by omega, by omega, by omega⟩
    by_cases leap : ofSpan = 1460
    · exact ⟨century, span, 3, 365, by omega, by omega, by omega, by omega, by omega, by omega⟩
    · exact ⟨century, span, ofSpan / 365, ofSpan % 365, by omega, by omega, by omega, by omega,
        by omega, by omega⟩

section

variable {dayOfCycle century span year day : Int}

/-- The year of a day that has been taken apart. -/
theorem yearOfCycle_eq (apart : IsTakenApart dayOfCycle century span year day) :
    yearOfCycle dayOfCycle = 100 * century + 4 * span + year := by
  obtain ⟨⟨_, _⟩, ⟨_, _⟩, ⟨_, _⟩, ⟨_, _⟩, parts, leap⟩ := apart
  have centuries : dayOfCycle / 36524 - dayOfCycle / 146096 = century := by
    by_cases last : dayOfCycle = 146096
    · rw [last]
      omega
    · have early : dayOfCycle / 146096 = 0 := by omega
      rw [early]
      omega
  -- What is left of the spans may add up to one more leap day than there are spans.
  have spans : dayOfCycle / 1460 =
        25 * century + span + if 1460 ≤ 24 * century + span + 365 * year + day then 1 else 0 := by
    split <;> omega
  have years : yearOfCycle dayOfCycle =
      (dayOfCycle - dayOfCycle / 1460 + (dayOfCycle / 36524 - dayOfCycle / 146096)) / 365 := by
    rw [yearOfCycle]
    congr 1
    omega
  rw [years, centuries, spans, parts]
  split <;> omega

/-- The day of the year of a day that has been taken apart. -/
theorem sub_daysBefore_eq (apart : IsTakenApart dayOfCycle century span year day) :
    dayOfCycle - daysBefore (yearOfCycle dayOfCycle) = day := by
  rw [yearOfCycle_eq apart, daysBefore]
  obtain ⟨⟨_, _⟩, ⟨_, _⟩, ⟨_, _⟩, ⟨_, _⟩, parts, -⟩ := apart
  omega

end

/-- The day of a year that begins in March. -/
def ofMarch (year day : Int) : CalendarDate :=
  let monthFromMarch := (5 * day + 2) / 153
  let month := if monthFromMarch < 10 then monthFromMarch + 3 else monthFromMarch - 9
  ⟨if month ≤ 2 then year + 1 else year, month.toNat,
    (day - (153 * monthFromMarch + 2) / 5 + 1).toNat⟩

/-- Every number is that of a day of some year that begins in March, and a leap day falls into a
leap year. -/
theorem exists_ofMarch (number : Int) : ∃ year day, ofDayNumber number = ofMarch year day ∧
    0 ≤ day ∧ day ≤ 365 ∧ (day = 365 → isLeapYear (year + 1) = true) ∧
    number + 719468 = year / 400 * 146097 + daysBefore (year % 400) + day := by
  obtain ⟨century, span, year, day, apart⟩ :=
    exists_isTakenApart (Int.emod_nonneg (number + 719468) (by decide : (146097 : Int) ≠ 0))
      (Int.emod_lt_of_pos _ (by decide))
  have years := yearOfCycle_eq apart
  have days := sub_daysBefore_eq apart
  obtain ⟨⟨_, _⟩, ⟨_, _⟩, ⟨_, _⟩, ⟨low, high⟩, -, leap⟩ := apart
  refine ⟨yearOfCycle ((number + 719468) % 146097) + (number + 719468) / 146097 * 400, day, ?_,
    low, high, fun last => ?_, ?_⟩
  · rw [← days]
    rfl
  · obtain ⟨ends, full⟩ := leap last
    rw [years, ends]
    simp only [isLeapYear, Bool.and_eq_true, Bool.or_eq_true, decide_eq_true_eq]
    omega
  · have cycles : (yearOfCycle ((number + 719468) % 146097) +
        (number + 719468) / 146097 * 400) / 400 = (number + 719468) / 146097 := by omega
    have rest : (yearOfCycle ((number + 719468) % 146097) +
        (number + 719468) / 146097 * 400) % 400 = yearOfCycle ((number + 719468) % 146097) := by
      omega
    rw [cycles, rest]
    omega

/-- A day of a year that begins in March is one of the calendar, and has the number of the day. -/
theorem ofMarch_spec {year day : Int} (low : 0 ≤ day) (high : day ≤ 365)
    (leap : day = 365 → isLeapYear (year + 1) = true) :
    (ofMarch year day).isValid = true ∧
      (ofMarch year day).toDayNumber =
        year / 400 * 146097 + daysBefore (year % 400) + day - 719468 := by
  obtain ⟨month, found⟩ : ∃ month, month = (5 * day + 2) / 153 := ⟨_, rfl⟩
  have first : 0 ≤ month := by omega
  have last : month ≤ 11 := by omega
  have february : day ≤ 336 + daysInMonth (year + 1) 2 := by
    simp only [daysInMonth, ↓reduceIte]
    split
    case isTrue => omega
    case isFalse common =>
      have short : day ≠ 365 := fun last => common (leap last)
      omega
  -- Only the length of the last month depends on the year.
  simp only [ofMarch, isValid, toDayNumber, daysBefore, ← found, Bool.and_eq_true,
    decide_eq_true_eq]
  by_cases isLast : month = 11
  · subst isLast
    simp
    omega
  · have earlier : month ≤ 10 := by omega
    interval_cases month
    all_goals
      simp [daysInMonth]
      omega

/-- Every number names a day of the calendar. -/
theorem isValid_ofDayNumber (number : Int) : (ofDayNumber number).isValid = true := by
  obtain ⟨year, day, same, low, high, leap, -⟩ := exists_ofMarch number
  rw [same]
  exact (ofMarch_spec low high leap).1

/-- The day that a number names has the number. -/
theorem toDayNumber_ofDayNumber (number : Int) : (ofDayNumber number).toDayNumber = number := by
  obtain ⟨year, day, same, low, high, leap, number⟩ := exists_ofMarch number
  rw [same, (ofMarch_spec low high leap).2]
  omega

/-- A day of the calendar is in one of twelve months, none of which is longer than 31 days. -/
theorem bounds_of_isValid {date : CalendarDate} (valid : date.isValid = true) :
    1 ≤ date.month ∧ date.month ≤ 12 ∧ 1 ≤ date.day ∧ date.day ≤ 31 := by
  simp only [isValid, Bool.and_eq_true, decide_eq_true_eq] at valid
  have length : daysInMonth date.year date.month ≤ 31 ∧
      (1 ≤ daysInMonth date.year date.month → 1 ≤ date.month ∧ date.month ≤ 12) := by
    simp only [daysInMonth]
    split
    · split <;> omega
    · split
      · omega
      · split <;> omega
  omega

/-- The number of a day whose year has four digits has seven digits at most. -/
theorem bounds_of_year {number : Int} (low : 0 ≤ (ofDayNumber number).year)
    (high : (ofDayNumber number).year ≤ 9999) : -1000000 ≤ number ∧ number ≤ 3000000 := by
  obtain ⟨year, day, same, first, last, -, number⟩ := exists_ofMarch number
  have near : (ofMarch year day).year = year + 1 ∨ (ofMarch year day).year = year :=
    ite_eq_or_eq _ _ _
  rw [same] at low high
  simp only [daysBefore] at number
  omega

end BoxOffice.CalendarDate
