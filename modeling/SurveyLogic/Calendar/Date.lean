/-
# Calendar dates

Dates of the Gregorian calendar, carried on before its introduction, and their numbers counted in
days from 1 January 1970. A year of the count starts in March, so that the day added in a leap year
is the last of its year; 400 such years always have 146097 days.
-/

namespace SurveyLogic
namespace Calendar

/-- A day of the calendar. -/
structure Date where
  year : Int
  month : Nat
  day : Nat
  deriving DecidableEq, Repr

/-- Every fourth year, of the hundreds only every fourth. -/
def isLeapYear (year : Int) : Bool :=
  year % 4 == 0 && (year % 100 != 0 || year % 400 == 0)

/-- The number of days of a month. -/
def daysInMonth (year : Int) (month : Nat) : Nat :=
  if month = 2 then (if isLeapYear year then 29 else 28)
  else if month = 4 || month = 6 || month = 9 || month = 11 then 30
  else 31

/-- The years that dates may have. -/
def inRange (year : Int) : Bool :=
  -262143 ≤ year && year ≤ 262142

/-- The date with the given parts, if there is such a day. -/
def Date.ofParts? (year : Int) (month day : Nat) : Option Date :=
  if inRange year && 1 ≤ month && month ≤ 12 && 1 ≤ day && day ≤ daysInMonth year month then
    some ⟨year, month, day⟩
  else none

/-- The number of a date: days since 1 January 1970. -/
def Date.toNumber (d : Date) : Int :=
  let year := if d.month ≤ 2 then d.year - 1 else d.year
  let era := year.fdiv 400
  let yearOfEra := year - era * 400
  let dayOfYear : Int := (153 * ((d.month + 9) % 12) + 2) / 5 + d.day - 1
  era * 146097 + (yearOfEra * 365 + yearOfEra / 4 - yearOfEra / 100 + dayOfYear) - 719468

/-- The date with a given number. -/
def Date.ofNumber (n : Int) : Date :=
  let era := (n + 719468).fdiv 146097
  let dayOfEra := n + 719468 - era * 146097
  let yearOfEra := (dayOfEra - dayOfEra / 1460 + dayOfEra / 36524 - dayOfEra / 146096) / 365
  let dayOfYear := (dayOfEra - (365 * yearOfEra + yearOfEra / 4 - yearOfEra / 100)).toNat
  let marchMonth := (5 * dayOfYear + 2) / 153
  let day := dayOfYear - (153 * marchMonth + 2) / 5 + 1
  let month := if marchMonth < 10 then marchMonth + 3 else marchMonth - 9
  ⟨yearOfEra + era * 400 + (if month ≤ 2 then 1 else 0), month, day⟩

/-- Whether a day comes before another within the year. -/
def Date.earlierInYear (a b : Date) : Bool :=
  a.month < b.month || (a.month == b.month && a.day < b.day)

/-- Whether a date comes before another. -/
def Date.isBefore (a b : Date) : Bool :=
  a.year < b.year || (a.year == b.year && a.earlierInYear b)

/-- Whole years from a date to one that is not before it: a year is full on the same day of the
year, or on the next one if that day is missing. -/
def yearsForward (a b : Date) : Int :=
  b.year - a.year - (if b.earlierInYear a then 1 else 0)

/-- Whole years from one date to another, negative if that is earlier. -/
def yearsBetween (a b : Date) : Int :=
  if b.isBefore a then -yearsForward b a else yearsForward a b

example : Date.ofNumber 0 = ⟨1970, 1, 1⟩ ∧ Date.toNumber ⟨2000, 2, 29⟩ = 11016 := by
  decide +kernel

example : yearsBetween ⟨2000, 2, 29⟩ ⟨2001, 2, 28⟩ = 0 ∧
    yearsBetween ⟨2000, 2, 29⟩ ⟨2001, 3, 1⟩ = 1 := by
  decide +kernel

end Calendar
end SurveyLogic
