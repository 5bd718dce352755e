import BoxOffice.Text.Blank
import BoxOffice.Text.Decimal
import BoxOffice.Time.Instant

/-!
# Dates in RFC 3339

An instant is written as `2026-10-17T03:00:00.120Z`: with 0, 3, 6 or 9 fraction digits, the fewest
that are exact, and with `Z` for universal time or the offset of a local clock. Years from 0 to
9999 have four digits, others a sign and at least four.

Reading is more generous. The separator `T` may be a space, numbers may be short and blanks may
stand around them, any fraction is cut to nanoseconds, `UTC` may stand for `Z`, and an offset is
two digits of hours and two of minutes with colons or blanks between them or nothing.
-/
namespace BoxOffice.Rfc3339

/-- A year: four digits from 0 to 9999, otherwise a sign and at least four digits. -/
def writeYear (year : Int) : List Char :=
  if 0 ≤ year ∧ year ≤ 9999 then Decimal.fixed 4 year.toNat
  else (if year < 0 then '-' else '+') :: Decimal.padded 4 year.natAbs

/-- A day as year, month and day of the month. -/
def writeDate (date : CalendarDate) : List Char :=
  writeYear date.year ++ '-' :: (Decimal.fixed 2 date.month ++ '-' :: Decimal.fixed 2 date.day)

/-- Hour and minute of a second of the day. -/
def writeHourMinute (secondOfDay : Nat) : List Char :=
  Decimal.fixed 2 (secondOfDay / 3600) ++ ':' :: Decimal.fixed 2 (secondOfDay / 60 % 60)

/-- Nanoseconds as a fraction of 0, 3, 6 or 9 digits, the fewest that are exact. -/
def writeFraction (nano : Nat) : List Char :=
  if nano = 0 then []
  else if nano % 1000000 = 0 then '.' :: Decimal.fixed 3 (nano / 1000000)
  else if nano % 1000 = 0 then '.' :: Decimal.fixed 6 (nano / 1000)
  else '.' :: Decimal.fixed 9 nano

/-- Date and time as a local clock shows them. A leap second is written as second 60. -/
def writeLocal (time : LocalTime) : List Char :=
  writeDate time.date ++ 'T' :: (writeHourMinute time.secondOfDay ++
    ':' :: (Decimal.fixed 2 (time.secondOfDay % 60 + time.instant.nano / 1000000000) ++
      writeFraction (time.instant.nano % 1000000000)))

/-- An offset as sign, hours and minutes; seconds are rounded to the nearest minute. -/
def writeOffset (offset : Int) : List Char :=
  let minutes := (offset.natAbs + 30) / 60
  (if offset < 0 then '-' else '+') ::
    (Decimal.fixed 2 (minutes / 60) ++ ':' :: Decimal.fixed 2 (minutes % 60))

/-- An instant in universal time. -/
def write (instant : Instant) : String :=
  String.ofList (writeLocal ⟨instant, 0⟩ ++ ['Z'])

/-- An instant as a local clock shows it, with its offset. -/
def writeWithOffset (time : LocalTime) : String :=
  String.ofList (writeLocal time ++ writeOffset time.offset)

/-- The day that a local clock shows. -/
def writeDay (time : LocalTime) : String := String.ofList (writeDate time.date)

/-- The day, hour and minute that a local clock shows. -/
def writeMinute (time : LocalTime) : String :=
  String.ofList (writeDate time.date ++ ' ' :: writeHourMinute time.secondOfDay)

/-- Reads a number of at most `limit` digits that is at least `low` and at most `high`. Blanks
before it are skipped. -/
def readNumber? (limit low high : Nat) (text : List Char) : Option (Nat × List Char) := do
  let found ← Decimal.read? limit (Text.trimStart text)
  if low ≤ found.value ∧ found.value ≤ high then some (found.value, found.rest) else none

/-- Reads a year: four digits at most, or any number after a sign. -/
def readYear? (text : List Char) : Option (Int × List Char) :=
  match Text.trimStart text with
  | '-' :: rest =>
    (Decimal.read? rest.length rest).map fun found => (-(found.value : Int), found.rest)
  | '+' :: rest =>
    (Decimal.read? rest.length rest).map fun found => ((found.value : Int), found.rest)
  | rest => (Decimal.read? 4 rest).map fun found => ((found.value : Int), found.rest)

/-- Reads one given character, skipping blanks before it. -/
def readMark? (mark : Char) (text : List Char) : Option (List Char) :=
  match Text.trimStart text with
  | character :: rest => if character = mark then some rest else none
  | [] => none

/-- Reads a day of the calendar. -/
def readDate? (text : List Char) : Option (CalendarDate × List Char) := do
  let (year, text) ← readYear? text
  let text ← readMark? '-' text
  let (month, text) ← readNumber? 2 1 12 text
  let text ← readMark? '-' text
  let (day, text) ← readNumber? 2 1 31 text
  let date : CalendarDate := ⟨year, month, day⟩
  if date.isValid then some (date, text) else none

/-- Reads the mark between date and time. -/
def readSeparator? : List Char → Option (List Char)
  | character :: rest =>
    if character = 'T' ∨ character = 't' ∨ character = ' ' then some rest else none
  | [] => none

/-- Reads a fraction in nanoseconds, when there is one; digits after the ninth do not count. -/
def readFraction? : List Char → Option (Nat × List Char)
  | '.' :: rest => do
    let found ← Decimal.read? 9 rest
    some (found.value * Nat.pow 10 (9 - found.count),
      found.rest.dropWhile fun character => (Decimal.digit? character).isSome)
  | text => some (0, text)

/-- Reads a time of day: its second, and nanoseconds within it. Second 60 is the leap second after
second 59. -/
def readTime? (text : List Char) : Option ((Nat × Nat) × List Char) := do
  let (hour, text) ← readNumber? 2 0 23 text
  let text ← readMark? ':' text
  let (minute, text) ← readNumber? 2 0 59 text
  let text ← readMark? ':' text
  let (second, text) ← readNumber? 2 0 60 text
  let (nano, text) ← readFraction? text
  let whole := hour * 3600 + minute * 60
  some (if second = 60 then (whole + 59, nano + 1000000000) else (whole + second, nano), text)

/-- Reads two digits as a number. -/
def readPair? (high : Nat) : List Char → Option (Nat × List Char)
  | first :: second :: rest => do
    let tens ← Decimal.digit? first
    let ones ← Decimal.digit? second
    if 10 * tens + ones ≤ high then some (10 * tens + ones, rest) else none
  | _ => none

/-- Reads an offset in seconds after its sign. -/
def readOffsetAfterSign? (text : List Char) : Option (Nat × List Char) := do
  let (hours, text) ← readPair? 99 text
  let text := text.dropWhile fun character => character = ':' || Text.isBlank character
  let (minutes, text) ← readPair? 59 text
  some (hours * 3600 + minutes * 60, text)

/-- Reads an offset in seconds: `Z`, `UTC`, or a sign with hours and minutes. -/
def readOffset? : List Char → Option (Int × List Char)
  | [] => none
  | first :: rest =>
    if ((first :: rest).take 3).map Char.toUpper = ['U', 'T', 'C'] then some (0, rest.drop 2)
    else if first = 'Z' ∨ first = 'z' then some (0, rest)
    else if first = '+' then
      (readOffsetAfterSign? rest).map fun (seconds, text) => ((seconds : Int), text)
    else if first = '-' ∨ first = '\u2212' then
      (readOffsetAfterSign? rest).map fun (seconds, text) => (-(seconds : Int), text)
    else none

/-- The instant at which a clock with some offset shows a day and a time of day, when the
calendar reaches both and the offset is less than a day. -/
def instant? (date : CalendarDate) (secondOfDay nano : Nat) (offset : Int) : Option Instant :=
  let shown := date.toDayNumber * Instant.secondsPerDay + secondOfDay
  let second := shown - offset
  if bounded : nano < 1000000000 ∨ nano < 2000000000 ∧ second % 60 = 59 then
    if offset.natAbs < 86400 ∧ Instant.isReached shown ∧ Instant.isReached second then
      some ⟨second, nano, bounded⟩
    else none
  else none

/-- Reads an instant; blanks may follow it. -/
def readCharacters? (text : List Char) : Option Instant := do
  let (date, text) ← readDate? text
  let text ← readSeparator? text
  let ((second, nano), text) ← readTime? text
  let (offset, text) ← readOffset? (Text.trimStart text)
  if Text.trimStart text = [] then instant? date second nano offset else none

/-- Reads an instant from a text. -/
def read? (text : String) : Option Instant := readCharacters? text.toList

end BoxOffice.Rfc3339
