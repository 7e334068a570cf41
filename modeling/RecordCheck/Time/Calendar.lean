/-!
# Calendar dates

The proleptic Gregorian calendar, counted in days from 1970-01-01. Years are
taken to start on 1 March, so that a leap day is the last day of its year; an
era of 400 such years always has 146097 days.
-/

namespace RecordCheck

/-- A day of the proleptic Gregorian calendar; the year before 1 is 0. -/
structure CalendarDate where
  year : Int
  month : Nat
  day : Nat
  deriving DecidableEq

namespace CalendarDate

/-- The days from 0000-03-01 to 1970-01-01. -/
def epochOffset : Int := 719468

/-- The days of 400 years. -/
def eraLength : Int := 146097

/-- The year of an era, 0 to 399, in which a day of the era falls. -/
def yearOfEra (dayOfEra : Nat) : Nat :=
  (dayOfEra - dayOfEra / 1460 + dayOfEra / 36524 - dayOfEra / 146096) / 365

/-- The date that many days after 1970-01-01. -/
def ofDays (days : Int) : CalendarDate :=
  let shifted := days + epochOffset
  let dayOfEra := (shifted % eraLength).toNat
  let yearOfEra := yearOfEra dayOfEra
  let dayOfYear := dayOfEra - (365 * yearOfEra + yearOfEra / 4 - yearOfEra / 100)
  let monthFromMarch := (5 * dayOfYear + 2) / 153
  let month := if monthFromMarch < 10 then monthFromMarch + 3 else monthFromMarch - 9
  let year := shifted / eraLength * 400 + yearOfEra
  { year := if month ≤ 2 then year + 1 else year
    month
    day := dayOfYear - (153 * monthFromMarch + 2) / 5 + 1 }

end CalendarDate

end RecordCheck
