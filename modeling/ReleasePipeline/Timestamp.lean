/-
Moments in universal time, written with date and time of day.
-/

set_option autoImplicit false

namespace ReleasePipeline

/-- A date of the Gregorian calendar. -/
structure CalendarDate where
  year : Nat
  month : Nat
  day : Nat
  deriving DecidableEq, Repr

/-- A number with zeros in front, at least as wide as it says. -/
def zeroPadded (width n : Nat) : String :=
  let digits := toString n
  String.ofList (List.replicate (width - digits.length) '0') ++ digits

/-- The date that lies a number of days after the first of January 1970. Years are counted from
March here, so that the odd day of a leap year is the last one. -/
def CalendarDate.ofDays (days : Nat) : CalendarDate :=
  let days := days + 719468
  let era := days / 146097
  let dayOfEra := days % 146097
  let yearOfEra := (dayOfEra - dayOfEra / 1460 + dayOfEra / 36524 - dayOfEra / 146096) / 365
  let dayOfYear := dayOfEra - (365 * yearOfEra + yearOfEra / 4 - yearOfEra / 100)
  let shifted := (5 * dayOfYear + 2) / 153
  let month := if shifted < 10 then shifted + 3 else shifted - 9
  { year := era * 400 + yearOfEra + (if month ≤ 2 then 1 else 0)
    month
    day := dayOfYear - (153 * shifted + 2) / 5 + 1 }

/-- The moment that lies a number of seconds and nanoseconds after the beginning of 1970. -/
def timestamp (seconds nanoseconds : Nat) : String :=
  let date := CalendarDate.ofDays (seconds / 86400)
  let time := seconds % 86400
  zeroPadded 4 date.year ++ "-" ++ zeroPadded 2 date.month ++ "-" ++ zeroPadded 2 date.day ++ "T"
    ++ zeroPadded 2 (time / 3600) ++ ":" ++ zeroPadded 2 (time / 60 % 60) ++ ":"
    ++ zeroPadded 2 (time % 60) ++ "." ++ zeroPadded 9 nanoseconds ++ "Z"

end ReleasePipeline
