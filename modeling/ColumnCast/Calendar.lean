import ColumnCast.Cast.Int96
import ColumnCast.Unscaled

/-!
# Timestamps as dates

`TimeUnit.dateText?` shows a count of units since 1970 as a date and a time of day in the
proleptic Gregorian calendar. Years outside `minYear` to `maxYear` have no text.
-/

namespace ColumnCast

namespace Calendar

/-- The first year that can be shown. -/
def minYear : Int := -262143

/-- The last year that can be shown. -/
def maxYear : Int := 262142

/-- A day of the calendar. -/
structure Date where
  year : Int
  month : Nat
  day : Nat
  deriving DecidableEq

/-- The date that is this many days after 1970-01-01. Years are counted from March, so that the
leap day ends one, and in cycles of 400 years. -/
def ofDays (days : Int) : Date :=
  let shifted := days + 719468
  let cycle := shifted / 146097
  let dayOfCycle := (shifted % 146097).toNat
  let yearOfCycle :=
    (dayOfCycle - dayOfCycle / 1460 + dayOfCycle / 36524 - dayOfCycle / 146096) / 365
  let dayOfYear := dayOfCycle - (365 * yearOfCycle + yearOfCycle / 4 - yearOfCycle / 100)
  let marchMonth := (5 * dayOfYear + 2) / 153
  let day := dayOfYear - (153 * marchMonth + 2) / 5 + 1
  let month := if marchMonth < 10 then marchMonth + 3 else marchMonth - 9
  let year := (yearOfCycle : Int) + 400 * cycle + (if month ≤ 2 then 1 else 0)
  ⟨year, month, day⟩

/-- A year on at least four digits, signed outside the years 0 to 9999. -/
def yearText (year : Int) : List Char :=
  if 0 ≤ year ∧ year ≤ 9999 then FixedPoint.padded 4 year.natAbs
  else (if year < 0 then '-' else '+') :: FixedPoint.padded 4 year.natAbs

/-- The fraction of a second on the fewest of zero, three, six or nine digits. -/
def fractionText (nanos : Nat) : List Char :=
  if nanos = 0 then []
  else if nanos % 1000000 = 0 then '.' :: FixedPoint.padded 3 (nanos / 1000000)
  else if nanos % 1000 = 0 then '.' :: FixedPoint.padded 6 (nanos / 1000)
  else '.' :: FixedPoint.padded 9 nanos

/-- Hours, minutes and seconds of a second of the day. -/
def clockText (second : Nat) : List Char :=
  FixedPoint.padded 2 (second / 3600) ++ ':' :: FixedPoint.padded 2 (second / 60 % 60) ++
    ':' :: FixedPoint.padded 2 (second % 60)

/-- The date and time of an instant given in seconds since 1970 and nanoseconds. -/
def text? (seconds : Int) (nanos : Nat) : Option String :=
  let date := ofDays (seconds / 86400)
  if date.year < minYear ∨ maxYear < date.year then none
  else
    some (String.ofList (yearText date.year ++ '-' :: FixedPoint.padded 2 date.month ++
      '-' :: FixedPoint.padded 2 date.day ++ ' ' :: clockText (seconds % 86400).toNat ++
      fractionText nanos))

end Calendar

namespace TimeUnit

/-- The number of units in a second. -/
def perSecond : TimeUnit → Int
  | nanos => 1000000000
  | micros => 1000000
  | millis => 1000

/-- The date and time that is this many units after 1970 began. -/
def dateText? (unit : TimeUnit) (value : Int64) : Option String :=
  Calendar.text? (value.toInt / unit.perSecond)
    ((value.toInt % unit.perSecond) * unit.nanosPerUnit).toNat

end TimeUnit

end ColumnCast
