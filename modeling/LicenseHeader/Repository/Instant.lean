import LicenseHeader.Repository.Basic

/-!
# Instants

The calendar date and the written form of an instant, in its own time zone.
-/

namespace LicenseHeader

structure CalendarDay where
  year : Int
  month : Nat
  day : Nat
  deriving DecidableEq, Repr

namespace CalendarDay

/-- The day that is a number of days after the first of January 1970.  Years are counted from March,
so that the day that a leap year has more comes last; four hundred years have 146097 days. -/
def ofDays (days : Int) : CalendarDay :=
  let shifted := days + 719468
  let era := shifted / 146097
  let dayOfEra := (shifted % 146097).toNat
  let yearOfEra := (dayOfEra - dayOfEra / 1460 + dayOfEra / 36524 - dayOfEra / 146096) / 365
  let dayOfYear := dayOfEra - (365 * yearOfEra + yearOfEra / 4 - yearOfEra / 100)
  let monthFromMarch := (5 * dayOfYear + 2) / 153
  let month := if monthFromMarch < 10 then monthFromMarch + 3 else monthFromMarch - 9
  { year := (yearOfEra : Int) + era * 400 + (if month ≤ 2 then 1 else 0)
    month
    day := dayOfYear - (153 * monthFromMarch + 2) / 5 + 1 }

end CalendarDay

namespace Instant

/-- The seconds that the clock of the time zone shows since the start of 1970. -/
def localSeconds (i : Instant) : Int := i.seconds + i.offset * 60

def day (i : Instant) : CalendarDay := CalendarDay.ofDays (i.localSeconds / 86400)

def year (i : Instant) : Int := i.day.year

/-- Whether the time zone is less than a day away from universal time. -/
def hasZone (i : Instant) : Bool := i.offset.natAbs < 24 * 60

/-- Whether the calendar reaches the moment in universal time. -/
def hasDay (i : Instant) : Bool :=
  let year := (CalendarDay.ofDays (i.seconds / 86400)).year
  decide (-262143 ≤ year ∧ year ≤ 262142)

/-- A year in four digits or more. -/
def yearText (year : Int) : Text :=
  if year < 0 then '-' :: Text.ofNatPadded 4 year.natAbs
  else if 9999 < year then '+' :: Text.ofNat year.toNat
  else Text.ofNatPadded 4 year.toNat

def yearNumber (i : Instant) : Text :=
  (if i.year < 0 then ['-'] else []) ++ Text.ofNat i.year.natAbs

/-- The written form: date, time and distance from universal time. -/
def text (i : Instant) : Text :=
  let d := i.day
  let ofDay := (i.localSeconds % 86400).toNat
  yearText d.year ++ '-' :: Text.ofNatPadded 2 d.month ++ '-' :: Text.ofNatPadded 2 d.day
    ++ 'T' :: Text.ofNatPadded 2 (ofDay / 3600) ++ ':' :: Text.ofNatPadded 2 (ofDay / 60 % 60)
    ++ ':' :: Text.ofNatPadded 2 (ofDay % 60)
    ++ (if i.offset < 0 then '-' else '+') :: Text.ofNatPadded 2 (i.offset.natAbs / 60)
    ++ ':' :: Text.ofNatPadded 2 (i.offset.natAbs % 60)

end Instant

end LicenseHeader
