/-!
# Timestamps

A moment is written in Coordinated Universal Time: year, month and day of the Gregorian calendar,
the time of the day, and the offset, which is zero. Days are counted in years that begin in March,
so that the day of a leap year comes last.
-/

namespace PackageRisk

/-- A day of the calendar. -/
structure CalendarDay where
  year : Nat
  month : Nat
  day : Nat
  deriving DecidableEq, Repr

/-- The days of 400 years, after which the calendar repeats. -/
def daysPerCycle : Nat := 146097

/-- The days from March 1 of the year zero to January 1, 1970. -/
def daysBeforeEpoch : Nat := 719468

/-- The calendar day that comes so many days after January 1, 1970. -/
def CalendarDay.ofDays (days : Nat) : CalendarDay :=
  let all := days + daysBeforeEpoch
  let inCycle := all % daysPerCycle
  let leapDays := inCycle / 1460 + inCycle / 146096 - inCycle / 36524
  let yearInCycle := (inCycle - leapDays) / 365
  let inYear := inCycle - (365 * yearInCycle + yearInCycle / 4 - yearInCycle / 100)
  let monthFromMarch := (5 * inYear + 2) / 153
  let month := if monthFromMarch < 10 then monthFromMarch + 3 else monthFromMarch - 9
  { year := yearInCycle + all / daysPerCycle * 400 + if month ≤ 2 then 1 else 0
    month
    day := inYear - (153 * monthFromMarch + 2) / 5 + 1 }

namespace Timestamp

/-- A number with zeros in front, up to a width. -/
def padded (width n : Nat) : String :=
  let digits := Nat.toDigits 10 n
  String.ofList (List.replicate (width - digits.length) '0' ++ digits)

/-- The fraction of a second: none, or as many of milli-, micro- and nanoseconds as it needs. -/
def fraction (nanos : Nat) : String :=
  if nanos = 0 then ""
  else if nanos % 1000000 = 0 then "." ++ padded 3 (nanos / 1000000)
  else if nanos % 1000 = 0 then "." ++ padded 6 (nanos / 1000)
  else "." ++ padded 9 nanos

/-- The moment so many seconds and nanoseconds after the beginning of 1970. -/
def text (seconds nanos : Nat) : String :=
  let day := CalendarDay.ofDays (seconds / 86400)
  let time := seconds % 86400
  padded 4 day.year ++ "-" ++ padded 2 day.month ++ "-" ++ padded 2 day.day ++ "T" ++
    padded 2 (time / 3600) ++ ":" ++ padded 2 (time / 60 % 60) ++ ":" ++ padded 2 (time % 60) ++
    fraction nanos ++ "+00:00"

example : text 0 0 = "1970-01-01T00:00:00+00:00" := by decide +kernel
example : text 951782400 5000000 = "2000-02-29T00:00:00.005+00:00" := by decide +kernel
example : text 1709251199 1 = "2024-02-29T23:59:59.000000001+00:00" := by decide +kernel
example : text 4107542400 0 = "2100-03-01T00:00:00+00:00" := by decide +kernel

end Timestamp

end PackageRisk
