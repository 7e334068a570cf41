import RecordCheck.Time.Calendar

/-!
# Points in time

A timestamp is a number of seconds since 1970-01-01T00:00:00 in universal time
and a number of nanoseconds. A leap second is the second before it with a
thousand million nanoseconds or more, and is shown as second 60.

The short text has milliseconds, cut off and not rounded. The exact text has as
many digits of the second as it needs, in groups of three.
-/

namespace RecordCheck

/-- A point in universal time. -/
structure Timestamp where
  seconds : Int
  nanoseconds : Nat
  deriving DecidableEq

namespace Timestamp

/-- A number with zeros in front up to the given number of digits. -/
def padded (width n : Nat) : String :=
  let digits := Nat.toDigits 10 n
  String.ofList (List.replicate (width - digits.length) '0' ++ digits)

/-- Four digits for the years 0 to 9999; a sign and at least four digits otherwise. -/
def yearText (year : Int) : String :=
  if 0 ≤ year ∧ year ≤ 9999 then padded 4 year.natAbs
  else (if year < 0 then "-" else "+") ++ padded 4 year.natAbs

/-- The year, month and day. -/
def dateText (date : CalendarDate) : String :=
  yearText date.year ++ "-" ++ padded 2 date.month ++ "-" ++ padded 2 date.day

/-- The seconds in a day. -/
def dayLength : Int := 86400

/-- The day on which the point in time falls. -/
def date (t : Timestamp) : CalendarDate := .ofDays (t.seconds / dayLength)

/-- Whether the point in time lies in a leap second. -/
def isLeap (t : Timestamp) : Bool := 1000000000 ≤ t.nanoseconds

/-- The nanoseconds behind the shown second. -/
def fraction (t : Timestamp) : Nat :=
  if t.isLeap then t.nanoseconds - 1000000000 else t.nanoseconds

/-- Date and time of day down to the second. -/
def secondText (t : Timestamp) : String :=
  let ofDay := (t.seconds % dayLength).toNat
  let second := ofDay % 60 + if t.isLeap then 1 else 0
  dateText t.date ++ "T" ++ padded 2 (ofDay / 3600) ++ ":" ++ padded 2 (ofDay / 60 % 60) ++ ":" ++
    padded 2 second

/-- The text to the millisecond. -/
def text (t : Timestamp) : String :=
  t.secondText ++ "." ++ padded 3 (t.fraction / 1000000) ++ "Z"

/-- No fraction, or the fewest of three, six and nine digits that lose nothing. -/
def fractionText (nanoseconds : Nat) : String :=
  if nanoseconds = 0 then ""
  else if nanoseconds % 1000000 = 0 then "." ++ padded 3 (nanoseconds / 1000000)
  else if nanoseconds % 1000 = 0 then "." ++ padded 6 (nanoseconds / 1000)
  else "." ++ padded 9 nanoseconds

/-- The exact text. -/
def exactText (t : Timestamp) : String :=
  t.secondText ++ fractionText t.fraction ++ "Z"

end Timestamp

end RecordCheck
