import BoxOffice.Time.Calendar
import BoxOffice.Whole

/-!
# Instants

An `Instant` is a second counted from the beginning of 1970 in universal time, and nanoseconds
within it. A leap second is the second before it with more than a thousand million nanoseconds.
The calendar reaches from year -262143 to year 262142; adding a span that leads beyond it is an
overflow.
-/
namespace BoxOffice

/-- A point in universal time. -/
structure Instant where
  /-- Whole seconds since the beginning of 1970. -/
  second : Int
  /-- Nanoseconds within the second. -/
  nano : Nat
  /-- A leap second follows the last second of a minute. -/
  bounded : nano < 1000000000 ∨ nano < 2000000000 ∧ second % 60 = 59 := by omega
deriving DecidableEq, Repr

namespace Instant

/-- Whether the first instant is earlier than the second. -/
def isBefore (first second : Instant) : Bool :=
  decide (first.second < second.second) ||
    decide (first.second = second.second) && decide (first.nano < second.nano)

/-- The instant so many milliseconds after the beginning of 1970. -/
def ofMilliseconds (count : Int) : Instant :=
  ⟨count / 1000, (count % 1000).toNat * 1000000, by omega⟩

/-- The seconds of a day. -/
def secondsPerDay : Int := 86400

/-- The first second the calendar reaches. -/
def firstSecond : Int := (CalendarDate.toDayNumber ⟨-262143, 1, 1⟩) * secondsPerDay

/-- The last second the calendar reaches. -/
def lastSecond : Int := (CalendarDate.toDayNumber ⟨262143, 1, 1⟩) * secondsPerDay - 1

/-- Whether the calendar reaches an instant at this second. -/
def isReached (second : Int) : Bool :=
  decide (firstSecond ≤ second) && decide (second ≤ lastSecond)

/-- Whether an instant lies in a leap second. -/
def isLeap (instant : Instant) : Bool := decide (1000000000 ≤ instant.nano)

/-- The second from which so many minutes are counted. Forward it is the second of the instant,
which for a leap second is the one before it; backward from a leap second it is the one that
follows. -/
def minuteOrigin (instant : Instant) (minutes : Int) : Int :=
  if instant.isLeap && decide (minutes < 0) then instant.second + 1 else instant.second

/-- The instant so many minutes later, or earlier when negative. Nothing but no minutes leads from a
leap second to a leap second. -/
def addMinutes (instant : Instant) (minutes : Int) : Except Overflow Instant :=
  let second := instant.minuteOrigin minutes + 60 * minutes
  if isReached second then
    if minutes = 0 then .ok instant
    else .ok ⟨second, instant.nano % 1000000000, by omega⟩
  else .error .date

/-- The instant so many milliseconds later on a clock without leap seconds. -/
def addMilliseconds (instant : Instant) (count : Nat) : Instant :=
  let total := instant.nano + count % 1000 * 1000000
  ⟨instant.second + count / 1000 + total / 1000000000, total % 1000000000, by omega⟩

/-- One day earlier. -/
def dayBefore (instant : Instant) : Instant :=
  ⟨instant.second - 86400, instant.nano, by have := instant.bounded; omega⟩

end Instant

/-- An instant as a clock some seconds ahead of universal time shows it. -/
structure LocalTime where
  /-- The point in time. -/
  instant : Instant
  /-- Seconds by which the clock is ahead of universal time. -/
  offset : Int
deriving DecidableEq, Repr

namespace LocalTime

/-- The second that the clock shows, counted as if it were universal time. -/
def shownSecond (time : LocalTime) : Int := time.instant.second + time.offset

/-- The day that the clock shows. -/
def date (time : LocalTime) : CalendarDate :=
  CalendarDate.ofDayNumber (time.shownSecond / Instant.secondsPerDay)

/-- The second of the day that the clock shows. -/
def secondOfDay (time : LocalTime) : Nat := (time.shownSecond % Instant.secondsPerDay).toNat

end LocalTime

end BoxOffice
