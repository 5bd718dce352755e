import BoxOffice.Proofs.Time.Calendar
import BoxOffice.Time.Rfc3339
import Mathlib.Tactic.Ring

/-!
# Dates are read back

An instant in a year of four digits is read back from its written form, to the nanosecond. Numbers
are written in as many digits as a reader takes at most, so each is read to its end and no further;
only a fraction ends where the digits end.
-/
namespace BoxOffice

namespace Decimal

/-- A digit is no blank, and neither of the signs. -/
theorem digit_spec (value : Nat) : Text.isBlank (digit value) = false ∧ digit value ≠ '-' ∧
    digit value ≠ '+' := by
  have small : value % 10 < 10 := Nat.mod_lt _ (by decide)
  have all : ∀ place : Fin 10, Text.isBlank (Char.ofNat (48 + place.val)) = false ∧
      Char.ofNat (48 + place.val) ≠ '-' ∧ Char.ofNat (48 + place.val) ≠ '+' := by decide
  exact all ⟨value % 10, small⟩

/-- A number in a fixed number of digits begins with a digit. -/
theorem exists_fixed_eq_cons (width value : Nat) :
    ∃ first rest, fixed (width + 1) value = digit first :: rest := by
  induction width generalizing value with
  | zero => exact ⟨value, [], rfl⟩
  | succ width ih =>
    obtain ⟨first, rest, same⟩ := ih (value / 10)
    exact ⟨first, rest ++ [digit value], by rw [fixed, same]; rfl⟩

/-- Reading on over a number in a fixed number of digits takes all of them. -/
theorem readOn_fixed (width extra start count value : Nat) (rest : List Char) :
    readOn (width + extra) start count (fixed width value ++ rest) =
      readOn extra (start * 10 ^ width + value % 10 ^ width) (count + width) rest := by
  induction width generalizing value extra rest with
  | zero => simp [fixed, Nat.mod_one]
  | succ width ih =>
    have digits : value % 10 ^ (width + 1) = value % 10 + 10 * (value / 10 % 10 ^ width) := by
      rw [Nat.pow_succ', Nat.mod_mul]
    have total : 10 * (start * 10 ^ width + value / 10 % 10 ^ width) + value % 10 =
        start * 10 ^ (width + 1) + value % 10 ^ (width + 1) := by
      rw [digits, Nat.pow_succ]
      ring
    rw [fixed, List.append_assoc, Nat.add_assoc, Nat.add_comm 1 extra, ih]
    simp only [List.cons_append, List.nil_append, readOn, digit?_digit, total, Nat.add_assoc]

/-- Nothing is read where no digit stands. -/
theorem readOn_stop {limit value count : Nat} {rest : List Char}
    (stops : ∀ first ∈ rest.head?, digit? first = none) :
    readOn limit value count rest = ⟨value, count, rest⟩ := by
  cases limit with
  | zero => rfl
  | succ limit =>
    cases rest with
    | nil => rfl
    | cons first rest => simp only [readOn, stops first rfl]

/-- A number in a fixed number of digits is read where it ends or no more digits are taken. -/
theorem read?_fixed {width value : Nat} (extra : Nat) (rest : List Char) (positive : 0 < width)
    (fits : value < 10 ^ width)
    (stops : extra = 0 ∨ ∀ first ∈ rest.head?, digit? first = none) :
    read? (width + extra) (fixed width value ++ rest) = some ⟨value, width, rest⟩ := by
  have found : readOn (width + extra) 0 0 (fixed width value ++ rest) = ⟨value, width, rest⟩ := by
    rw [readOn_fixed, Nat.mod_eq_of_lt fits, Nat.zero_mul, Nat.zero_add, Nat.zero_add]
    rcases stops with rfl | stops
    · rfl
    · exact readOn_stop stops
  simp only [read?, found, Nat.pos_iff_ne_zero.mp positive, ↓reduceIte]

end Decimal

namespace Rfc3339

/-- No blank stands before a number in a fixed number of digits. -/
theorem trimStart_fixed (width value : Nat) (rest : List Char) :
    Text.trimStart (Decimal.fixed (width + 1) value ++ rest) =
      Decimal.fixed (width + 1) value ++ rest := by
  obtain ⟨first, later, same⟩ := Decimal.exists_fixed_eq_cons width value
  rw [same, List.cons_append, Text.trimStart, List.dropWhile_cons_of_neg]
  rw [(Decimal.digit_spec first).1]
  exact Bool.false_ne_true

/-- A number in a fixed number of digits is read within its limits. -/
theorem readNumber?_fixed {width low high value : Nat} (rest : List Char)
    (fits : value < 10 ^ (width + 1)) (least : low ≤ value) (most : value ≤ high) :
    readNumber? (width + 1) low high (Decimal.fixed (width + 1) value ++ rest) =
      some (value, rest) := by
  have found := Decimal.read?_fixed 0 rest (Nat.succ_pos width) fits (.inl rfl)
  simp only [readNumber?, trimStart_fixed, Nat.add_zero] at found ⊢
  simp only [found, Option.bind_eq_bind, Option.bind_some, least, most, and_self, ↓reduceIte]

/-- A mark that is no blank is read. -/
theorem readMark?_cons {mark : Char} (rest : List Char) (plain : Text.isBlank mark = false) :
    readMark? mark (mark :: rest) = some rest := by
  have kept : Text.trimStart (mark :: rest) = mark :: rest :=
    List.dropWhile_cons_of_neg (by rw [plain]; exact Bool.false_ne_true)
  simp only [readMark?, kept, ↓reduceIte]

/-- A year of four digits is read. -/
theorem readYear?_writeYear {year : Int} (rest : List Char) (low : 0 ≤ year) (high : year ≤ 9999) :
    readYear? (writeYear year ++ rest) = some (year, rest) := by
  have fits : year.toNat < 10 ^ 4 := by omega
  have found := Decimal.read?_fixed 0 rest (Nat.succ_pos 3) fits (.inl rfl)
  obtain ⟨first, later, same⟩ := Decimal.exists_fixed_eq_cons 3 year.toNat
  obtain ⟨-, plain, unsigned⟩ := Decimal.digit_spec first
  rw [writeYear, if_pos ⟨low, high⟩]
  simp only [readYear?, trimStart_fixed]
  split
  case h_1 signed =>
    rw [same] at signed
    exact absurd (List.cons.inj signed).1 plain
  case h_2 signed =>
    rw [same] at signed
    exact absurd (List.cons.inj signed).1 unsigned
  case h_3 =>
    rw [found, Option.map_some, Int.toNat_of_nonneg low]

/-- A day in a year of four digits is read. -/
theorem readDate?_writeDate {date : CalendarDate} (rest : List Char) (valid : date.isValid = true)
    (low : 0 ≤ date.year) (high : date.year ≤ 9999) :
    readDate? (writeDate date ++ rest) = some (date, rest) := by
  obtain ⟨firstMonth, lastMonth, firstDay, lastDay⟩ := CalendarDate.bounds_of_isValid valid
  have month (rest : List Char) : readNumber? 2 1 12 (Decimal.fixed 2 date.month ++ rest) =
      some (date.month, rest) := readNumber?_fixed rest (by omega) firstMonth lastMonth
  have day : readNumber? 2 1 31 (Decimal.fixed 2 date.day ++ rest) = some (date.day, rest) :=
    readNumber?_fixed rest (by omega) firstDay lastDay
  have mark (rest : List Char) : readMark? '-' ('-' :: rest) = some rest :=
    readMark?_cons rest (by decide)
  simp only [writeDate, readDate?, List.append_assoc, List.cons_append, Option.bind_eq_bind,
    readYear?_writeYear _ low high, Option.bind_some, mark, month, day, valid, ↓reduceIte]

/-- A fraction in some digits is read in nanoseconds. -/
theorem readFraction?_fixed {width value : Nat} (extra : Nat) (rest : List Char)
    (all : width + extra = 9) (positive : 0 < width) (fits : value < 10 ^ width) :
    readFraction? ('.' :: (Decimal.fixed width value ++ 'Z' :: rest)) =
      some (value * 10 ^ extra, 'Z' :: rest) := by
  have stops : ∀ first ∈ ('Z' :: rest).head?, Decimal.digit? first = none := by
    intro first same
    rw [← Option.some.inj same]
    rfl
  have found := Decimal.read?_fixed extra ('Z' :: rest) positive fits (.inr stops)
  have left : 9 - width = extra := by omega
  rw [all] at found
  simp only [readFraction?, found, Option.bind_eq_bind, Option.bind_some, left, Nat.pow_eq]
  rfl

/-- A fraction is read back to the nanosecond. -/
theorem readFraction?_writeFraction {nano : Nat} (rest : List Char) (fits : nano < 1000000000) :
    readFraction? (writeFraction nano ++ 'Z' :: rest) = some (nano, 'Z' :: rest) := by
  rw [writeFraction]
  split
  case isTrue zero =>
    rw [zero]
    rfl
  case isFalse =>
    split
    case isTrue milli =>
      rw [List.cons_append, readFraction?_fixed 6 rest rfl (by decide) (by omega)]
      congr 2
      omega
    case isFalse =>
      split
      case isTrue micro =>
        rw [List.cons_append, readFraction?_fixed 3 rest rfl (by decide) (by omega)]
        congr 2
        omega
      case isFalse =>
        rw [List.cons_append, readFraction?_fixed 0 rest rfl (by decide) fits]
        congr 2
        omega

/-- A time of day is read back to the nanosecond; a leap second is read back as one. -/
theorem readTime?_write {secondOfDay nano : Nat} (rest : List Char) (within : secondOfDay < 86400)
    (bounded : nano < 1000000000 ∨ nano < 2000000000 ∧ secondOfDay % 60 = 59) :
    readTime? (writeHourMinute secondOfDay ++
        ':' :: (Decimal.fixed 2 (secondOfDay % 60 + nano / 1000000000) ++
          (writeFraction (nano % 1000000000) ++ 'Z' :: rest))) =
      some ((secondOfDay, nano), 'Z' :: rest) := by
  have hour (rest : List Char) :
      readNumber? 2 0 23 (Decimal.fixed 2 (secondOfDay / 3600) ++ rest) =
        some (secondOfDay / 3600, rest) :=
    readNumber?_fixed rest (by omega) (Nat.zero_le _) (by omega)
  have minute (rest : List Char) :
      readNumber? 2 0 59 (Decimal.fixed 2 (secondOfDay / 60 % 60) ++ rest) =
        some (secondOfDay / 60 % 60, rest) :=
    readNumber?_fixed rest (by omega) (Nat.zero_le _) (by omega)
  have second (rest : List Char) :
      readNumber? 2 0 60 (Decimal.fixed 2 (secondOfDay % 60 + nano / 1000000000) ++ rest) =
        some (secondOfDay % 60 + nano / 1000000000, rest) :=
    readNumber?_fixed rest (by omega) (Nat.zero_le _) (by omega)
  have mark (rest : List Char) : readMark? ':' (':' :: rest) = some rest :=
    readMark?_cons rest (by decide)
  have fraction := readFraction?_writeFraction rest (Nat.mod_lt nano (by decide : 0 < 1000000000))
  simp only [writeHourMinute, readTime?, List.append_assoc, List.cons_append,
    Option.bind_eq_bind, hour, mark, minute, second, fraction, Option.bind_some,
    Option.some.injEq, Prod.mk.injEq, and_true]
  -- Second 60 is written for a leap second and for no other.
  split <;> simp only [Prod.mk.injEq] <;> omega

/-- Whether the year of an instant has four digits at most. -/
def HasShortYear (instant : Instant) : Prop :=
  0 ≤ (LocalTime.mk instant 0).date.year ∧ (LocalTime.mk instant 0).date.year ≤ 9999

/-- The calendar reaches every second of a year of four digits. -/
theorem HasShortYear.isReached {instant : Instant} (short : HasShortYear instant) :
    Instant.isReached instant.second = true := by
  simp only [HasShortYear, LocalTime.date, LocalTime.shownSecond, Int.add_zero,
    Instant.secondsPerDay] at short
  obtain ⟨least, most⟩ := CalendarDate.bounds_of_year short.1 short.2
  have first : Instant.firstSecond ≤ -1000000 * 86400 := by decide
  have last : 3000000 * 86400 + 86400 ≤ Instant.lastSecond := by decide
  simp only [Instant.isReached, Bool.and_eq_true, decide_eq_true_eq]
  omega

/-- The day and the second of the day at which an instant is shown lead back to it. -/
theorem instant?_date {instant : Instant} (short : HasShortYear instant) :
    instant? (LocalTime.mk instant 0).date (LocalTime.mk instant 0).secondOfDay instant.nano 0 =
      some instant := by
  have shown : (LocalTime.mk instant 0).date.toDayNumber * Instant.secondsPerDay +
      ((LocalTime.mk instant 0).secondOfDay : Int) = instant.second := by
    simp only [LocalTime.date, LocalTime.secondOfDay, LocalTime.shownSecond, Int.add_zero,
      Instant.secondsPerDay, CalendarDate.toDayNumber_ofDayNumber]
    omega
  simp only [instant?, shown, Int.sub_zero, instant.bounded, short.isReached, ↓reduceDIte,
    Int.natAbs_zero, Nat.ofNat_pos, and_self, ↓reduceIte]

/-- An instant in a year of four digits is read back. -/
theorem read?_write {instant : Instant} (short : HasShortYear instant) :
    read? (write instant) = some instant := by
  have valid : (LocalTime.mk instant 0).date.isValid = true :=
    CalendarDate.isValid_ofDayNumber _
  have within : (LocalTime.mk instant 0).secondOfDay < 86400 := by
    simp only [LocalTime.secondOfDay, Instant.secondsPerDay]
    omega
  have bounded : instant.nano < 1000000000 ∨
      instant.nano < 2000000000 ∧ (LocalTime.mk instant 0).secondOfDay % 60 = 59 := by
    simp only [LocalTime.secondOfDay, LocalTime.shownSecond, Instant.secondsPerDay]
    have bounded := instant.bounded
    omega
  have time := readTime?_write [] within bounded
  simp only [read?, write, writeLocal, String.toList_ofList, List.append_assoc, List.cons_append,
    readCharacters?, Option.bind_eq_bind, readDate?_writeDate _ valid short.1 short.2,
    Option.bind_some, readSeparator?, true_or, ↓reduceIte, time]
  exact instant?_date short

end Rfc3339

end BoxOffice
