/-
# `OpenSoar.Python.Datetime` — `datetime.isoformat`

A `datetime` in UTC is the number of microseconds since `datetime.min`, the first instant of
the year 1.  The date is read off the number of the day as `datetime` does it, in cycles of
400 years, here of years that begin in March, so that the leap day is the last of its year.
-/
import OpenSoar.Python.Text

namespace OpenSoar.Python

/-- Year, month and day of the day that comes `days` after the first of January of the year 1. -/
def yearMonthDay (days : Nat) : Nat × Nat × Nat :=
  -- 306 days lie between the first of March of the year 0 and the epoch
  let sinceMarch := days + 306
  let cycle := sinceMarch / 146097
  let dayOfCycle := sinceMarch % 146097
  let yearOfCycle :=
    (dayOfCycle - dayOfCycle / 1460 + dayOfCycle / 36524 - dayOfCycle / 146096) / 365
  let dayOfYear := dayOfCycle - (365 * yearOfCycle + yearOfCycle / 4 - yearOfCycle / 100)
  let month := (5 * dayOfYear + 2) / 153
  let day := dayOfYear - (153 * month + 2) / 5 + 1
  let year := yearOfCycle + cycle * 400
  if month < 10 then (year, month + 3, day) else (year + 1, month - 9, day)

/-- A number in decimal, at least `width` digits. -/
def zeroPadded (width n : Nat) : List Char :=
  let digits := Nat.toDigits 10 n
  List.replicate (width - digits.length) '0' ++ digits

/-- `isoformat()` of a time in UTC. -/
def isoformat (microseconds : Nat) : String :=
  let seconds := microseconds / 1000000
  let fraction := microseconds % 1000000
  let (year, month, day) := yearMonthDay (seconds / 86400)
  let date := zeroPadded 4 year ++ '-' :: zeroPadded 2 month ++ '-' :: zeroPadded 2 day
  let time := zeroPadded 2 (seconds / 3600 % 24) ++ ':' :: zeroPadded 2 (seconds / 60 % 60)
    ++ ':' :: zeroPadded 2 (seconds % 60)
  String.ofList (date ++ 'T' :: time
    ++ (if fraction = 0 then [] else '.' :: zeroPadded 6 fraction) ++ "+00:00".toList)

example : isoformat ((738944 * 86400 + 12 * 3600 + 34 * 60 + 56) * 1000000 + 789)
    = "2024-02-29T12:34:56.000789+00:00" := by decide +kernel

end OpenSoar.Python
