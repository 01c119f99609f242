/-!
# Instants

An instant is a number of nanoseconds since the beginning of 1970 in UTC. Its text is the date and the time of day with
a fraction of three, six or nine digits, or none where it is zero. From the year 10000 on the year has a plus sign.
-/

namespace ShipManifest

/-- A point in time from 1970 on. -/
structure Instant where
  nanoseconds : Nat
  deriving DecidableEq

namespace Instant

/-- The number in decimal digits, with zeros in front up to the width. -/
def pad (width n : Nat) : List Char :=
  let digits := Nat.toDigits 10 n
  List.replicate (width - digits.length) '0' ++ digits

/-- Year, month and day of a number of days since the beginning of 1970. Years begin with March here, so that the leap
day is a year's last day, and 400 years have 146097 days. -/
def dateOfDays (days : Nat) : Nat × Nat × Nat :=
  let shifted := days + 719468
  let era := shifted / 146097
  let dayOfEra := shifted % 146097
  let yearOfEra := (dayOfEra - dayOfEra / 1460 + dayOfEra / 36524 - dayOfEra / 146096) / 365
  let dayOfYear := dayOfEra - (365 * yearOfEra + yearOfEra / 4 - yearOfEra / 100)
  let marchMonth := (5 * dayOfYear + 2) / 153
  let day := dayOfYear - (153 * marchMonth + 2) / 5 + 1
  let month := if marchMonth < 10 then marchMonth + 3 else marchMonth - 9
  (yearOfEra + era * 400 + (if month ≤ 2 then 1 else 0), month, day)

/-- A year in four digits, or with a sign if it needs more. -/
def yearText (year : Nat) : List Char :=
  (if 9999 < year then ['+'] else []) ++ pad 4 year

/-- Date and time to the second. -/
def seconds (t : Instant) : List Char :=
  let secs := t.nanoseconds / 1000000000
  let (year, month, day) := dateOfDays (secs / 86400)
  let ofDay := secs % 86400
  yearText year ++ '-' :: pad 2 month ++ '-' :: pad 2 day ++ 'T' ::
    pad 2 (ofDay / 3600) ++ ':' :: pad 2 (ofDay / 60 % 60) ++ ':' :: pad 2 (ofDay % 60)

/-- The instant to the millisecond. -/
def milliText (t : Instant) : String :=
  String.ofList (t.seconds ++ '.' :: pad 3 (t.nanoseconds / 1000000 % 1000) ++ ['Z'])

/-- The instant with as many digits of its fraction, in groups of three, as it needs. -/
def text (t : Instant) : String :=
  let nanos := t.nanoseconds % 1000000000
  let fraction :=
    if nanos = 0 then []
    else if nanos % 1000000 = 0 then '.' :: pad 3 (nanos / 1000000)
    else if nanos % 1000 = 0 then '.' :: pad 6 (nanos / 1000)
    else '.' :: pad 9 nanos
  String.ofList (t.seconds ++ fraction ++ ['Z'])

end Instant

end ShipManifest
