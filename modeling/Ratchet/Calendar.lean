/-!
# Dates

A moment is a number of seconds since the first day of 1970. Its text has the
date of the Gregorian calendar and the time of day.
-/

namespace Ratchet

/-- A day of the calendar. -/
structure Date where
  /-- The year. -/
  year : Nat
  /-- The month, from one. -/
  month : Nat
  /-- The day of the month, from one. -/
  day : Nat
  deriving Repr, DecidableEq

/-- The day so many days after the first of March of the year nought. Years are
taken to begin in March, so that a leap day is the last of its year. -/
def Date.ofMarchDays (days : Nat) : Date :=
  let era := days / 146097
  let inEra := days % 146097
  let yearInEra := (inEra - inEra / 1460 + inEra / 36524 - inEra / 146096) / 365
  let inYear := inEra - (365 * yearInEra + yearInEra / 4 - yearInEra / 100)
  let march := (5 * inYear + 2) / 153
  let month := if march < 10 then march + 3 else march - 9
  { year := 400 * era + yearInEra + if month ≤ 2 then 1 else 0
    month
    day := inYear - (153 * march + 2) / 5 + 1 }

/-- The day so many days after the first of January 1970. -/
def Date.ofDays (days : Nat) : Date :=
  .ofMarchDays (days + 719468)

/-- A number with noughts in front, at least so wide. -/
def padded (width n : Nat) : String :=
  let digits := Nat.toDigits 10 n
  .ofList (List.replicate (width - digits.length) '0' ++ digits)

/-- **The text of a moment**: its date and time, with millionths of a second
unless there are none. -/
def momentText (seconds millionths : Nat) : String :=
  let date := Date.ofDays (seconds / 86400)
  let time := seconds % 86400
  padded 4 date.year ++ "-" ++ padded 2 date.month ++ "-" ++ padded 2 date.day ++ "T" ++
    padded 2 (time / 3600) ++ ":" ++ padded 2 (time / 60 % 60) ++ ":" ++ padded 2 (time % 60) ++
    if millionths = 0 then "" else "." ++ padded 6 millionths

end Ratchet
