/-!
# Moments

A moment is a date of the civil calendar and a time of the day in a zone at some
distance from universal time. Everything else about it, the weekday, the day of the year
and the week, follows from counting days. Weeks of the week calendar begin on Monday and
belong to the year in which their Thursday lies.
-/

namespace TextTemplate

/-- A date and a time of the day. -/
structure Moment where
  year : Int
  /-- From 1 to 12. -/
  month : Nat
  /-- From 1 to 31. -/
  day : Nat
  hour : Nat
  minute : Nat
  second : Nat
  nanosecond : Nat
  /-- By how many seconds the clock is ahead of universal time. -/
  offset : Int
  deriving DecidableEq, Repr

namespace Moment

/-- The days from 1 January 1970 to a date. Years are counted from March, so that the
leap day is the last day of its year. -/
def dayNumber (year : Int) (month day : Nat) : Int :=
  let year := if month ≤ 2 then year - 1 else year
  let era := year / 400
  let yearOfEra := year - era * 400
  let dayOfYear := (153 * ((month + 9) % 12) + 2) / 5 + day - 1
  era * 146097 + (yearOfEra * 365 + yearOfEra / 4 - yearOfEra / 100 +
    dayOfYear) - 719468

/-- The number of days of a year. -/
def daysOfYear (year : Int) : Int :=
  dayNumber (year + 1) 1 1 - dayNumber year 1 1

/-- The days from 1 January 1970 to the moment. -/
def days (moment : Moment) : Int :=
  dayNumber moment.year moment.month moment.day

/-- The day of the year, from 1. -/
def ordinal (moment : Moment) : Int :=
  moment.days - dayNumber moment.year 1 1 + 1

/-- The days since Monday. -/
def daysSinceMonday (moment : Moment) : Nat :=
  ((moment.days + 3) % 7).toNat

/-- The days since Sunday. -/
def daysSinceSunday (moment : Moment) : Nat :=
  ((moment.days + 4) % 7).toNat

/-- The number of weeks that began this year by the moment, where weeks begin `since`
days before it. -/
def weekOfYear (moment : Moment) (since : Nat) : Nat :=
  ((moment.ordinal - since + 6) / 7).toNat

/-- The year and the day of the year of the Thursday in the same week. -/
def thursday (moment : Moment) : Int × Int :=
  let day := moment.ordinal + 3 - moment.daysSinceMonday
  if day < 1 then (moment.year - 1, day + daysOfYear (moment.year - 1))
  else if daysOfYear moment.year < day
    then (moment.year + 1, day - daysOfYear moment.year)
  else (moment.year, day)

/-- The year of the week calendar. -/
def weekYear (moment : Moment) : Int :=
  moment.thursday.1

/-- The week of the week calendar, from 1. -/
def week (moment : Moment) : Nat :=
  ((moment.thursday.2 - 1) / 7 + 1).toNat

/-- The hour on a clock face, from 1 to 12. -/
def clockHour (moment : Moment) : Nat :=
  if moment.hour % 12 = 0 then 12 else moment.hour % 12

/-- The quarter of the year, from 1 to 4. -/
def quarter (moment : Moment) : Nat :=
  (moment.month - 1) / 3 + 1

/-- The seconds since the beginning of 1970 in universal time. -/
def timestamp (moment : Moment) : Int :=
  moment.days * 86400 + moment.hour * 3600 + moment.minute * 60 + moment.second -
    moment.offset

end Moment

end TextTemplate
