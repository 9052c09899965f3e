import PageShell.Text.Basic

/-!
# The clock

The clock gives a point in time with the offset of the local zone. The shell
prints it in two ways.

* `CivilDate.ofDays` — the calendar date of a day;
* `Clock.Reading.dateLine` — what the command `date` prints;
* `Clock.Reading.stamp` — what the status line shows.
-/

namespace PageShell

/-- A date of the Gregorian calendar, extended to all years. -/
structure CivilDate where
  year : Int
  /-- the month, from 1 to 12 -/
  month : Nat
  /-- the day of the month, from 1 -/
  day : Nat
  deriving DecidableEq, Repr

/-- **The date of a day**, counted from the first of January 1970. Days are counted from the first
of March of the year 0 in cycles of 400 years, so that leap days end the years. -/
def CivilDate.ofDays (days : Int) : CivilDate :=
  let shifted := days + 719468
  let cycle := shifted / 146097
  let dayOfCycle := (shifted % 146097).toNat
  let yearOfCycle :=
    (dayOfCycle - dayOfCycle / 1460 + dayOfCycle / 36524 - dayOfCycle / 146096) / 365
  let dayOfYear := dayOfCycle - (365 * yearOfCycle + yearOfCycle / 4 - yearOfCycle / 100)
  let march := (5 * dayOfYear + 2) / 153
  let month := if march < 10 then march + 3 else march - 9
  { year := yearOfCycle + cycle * 400 + (if month ≤ 2 then 1 else 0)
    month := month
    day := dayOfYear - (153 * march + 2) / 5 + 1 }

/-- A year in at least four digits; years after 9999 and before 0 have a sign. -/
def yearText (year : Int) : Text :=
  let digits := Text.ofNatPadded 4 year.natAbs
  if year < 0 then '-' :: digits else if 9999 < year then '+' :: digits else digits

namespace Clock

/-- The time shown by the clock. -/
structure Reading where
  /-- seconds since the start of 1970 in universal time -/
  seconds : Int
  /-- nanoseconds within the second; a thousand million or more in a leap second -/
  nanos : Nat
  /-- seconds by which local time is ahead of universal time -/
  offset : Int
  deriving DecidableEq, Repr

/-- The names of the days of the week, from Sunday on. -/
def weekdays : List Text :=
  ["Sun", "Mon", "Tue", "Wed", "Thu", "Fri", "Sat"].map String.toList

/-- The names of the months. -/
def months : List Text :=
  ["Jan", "Feb", "Mar", "Apr", "May", "Jun", "Jul", "Aug", "Sep", "Oct", "Nov", "Dec"].map
    String.toList

/-- The seconds in a day. -/
def secondsPerDay : Nat := 86400

/-- Hours, minutes and seconds; a leap second counts on from the second it follows. -/
def timeText (secondOfDay nanos : Nat) : Text :=
  Text.ofNatPadded 2 (secondOfDay / 3600) ++ [':'] ++
  Text.ofNatPadded 2 (secondOfDay / 60 % 60) ++ [':'] ++
  Text.ofNatPadded 2 (secondOfDay % 60 + nanos / 1000000000)

/-- The offset from universal time, rounded to minutes: a sign, hours and minutes. -/
def offsetText (offset : Int) : Text :=
  let minutes := (offset.natAbs + 30) / 60
  (if offset < 0 then '-' else '+') ::
    (Text.ofNatPadded 2 (minutes / 60) ++ Text.ofNatPadded 2 (minutes % 60))

/-- **What `date` prints**: weekday, month, day, year, local time and offset. -/
def Reading.dateLine (r : Reading) : Text :=
  let localSeconds := r.seconds + r.offset
  let days := localSeconds / secondsPerDay
  let date := CivilDate.ofDays days
  List.intercalate [' '] [
    weekdays.getD ((days + 4) % 7).toNat [],
    months.getD (date.month - 1) [],
    Text.ofNatPadded 2 date.day,
    yearText date.year,
    timeText (localSeconds % secondsPerDay).toNat r.nanos,
    "GMT".toList ++ offsetText r.offset]

/-- **What the status line shows**: date and time in universal time, with milliseconds. -/
def Reading.stamp (r : Reading) : Text :=
  let date := CivilDate.ofDays (r.seconds / secondsPerDay)
  yearText date.year ++ ['-'] ++ Text.ofNatPadded 2 date.month ++ ['-'] ++
  Text.ofNatPadded 2 date.day ++ ['T'] ++
  timeText (r.seconds % secondsPerDay).toNat r.nanos ++ ['.'] ++
  Text.ofNatPadded 3 (r.nanos % 1000000000 / 1000000) ++ ['Z']

end Clock

end PageShell
