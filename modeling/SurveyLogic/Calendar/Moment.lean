/-
# Moments

A moment in universal time: the number of its day, the second of that day, and the nanoseconds since
that second. A leap second is written as the second before it with more than a billion nanoseconds.

The time between two moments counts the leap second of the earlier one if the other lies in a later
second of the day.
-/

import SurveyLogic.Calendar.Date

namespace SurveyLogic
namespace Calendar

/-- A moment in universal time. -/
structure Moment where
  day : Int
  second : Nat
  nano : Nat
  deriving DecidableEq, Repr

namespace Moment

/-- The date of a moment. -/
def date (m : Moment) : Date :=
  Date.ofNumber m.day

/-- Midnight at the start of a date. -/
def startOf (d : Date) : Moment :=
  ⟨d.toNumber, 0, 0⟩

/-- The moment some milliseconds after the start of 1970, if its year is in range. -/
def ofMilliseconds? (ms : Int) : Option Moment :=
  let seconds := ms.fdiv 1000
  let m : Moment :=
    ⟨seconds.fdiv 86400, (seconds.fmod 86400).toNat, (ms.fmod 1000).toNat * 1000000⟩
  if inRange m.date.year then some m else none

/-- The moment whose clock reads as `m` does at a place that is `offset` seconds ahead. -/
def behind (m : Moment) (offset : Int) : Moment :=
  let seconds := m.day * 86400 + m.second - offset
  ⟨seconds.fdiv 86400, (seconds.fmod 86400).toNat, m.nano⟩

/-- Whether a moment lies in a leap second. -/
def inLeapSecond (m : Moment) : Bool :=
  1000000000 ≤ m.nano

/-- The leap second passed on the way from one time of day to another, with its sign. -/
def leapBetween (a b : Moment) : Int :=
  if a.second < b.second && a.inLeapSecond then 1
  else if b.second < a.second && b.inLeapSecond then -1
  else 0

/-- The nanoseconds from one moment to another. -/
def nanosecondsBetween (a b : Moment) : Int :=
  ((b.day - a.day) * 86400 + (b.second - a.second) + leapBetween a b) * 1000000000 +
    (b.nano - a.nano)

/-- Whole seconds from one moment to another, a fraction being dropped. -/
def secondsBetween (a b : Moment) : Int :=
  (nanosecondsBetween a b).tdiv 1000000000

end Moment

/-- A number with zeros in front up to a width. -/
def padded (width n : Nat) : String :=
  let digits := Nat.toDigits 10 n
  String.ofList (List.replicate (width - digits.length) '0' ++ digits)

/-- A date as `YYYY-MM-DD`; years beyond four digits have their sign. -/
def Date.text (d : Date) : String :=
  let year :=
    if 0 ≤ d.year && d.year ≤ 9999 then padded 4 d.year.toNat
    else (if d.year < 0 then "-" else "+") ++ padded 4 d.year.natAbs
  year ++ "-" ++ padded 2 d.month ++ "-" ++ padded 2 d.day

/-- A moment as `YYYY-MM-DDTHH:MM:SS.mmmZ`. -/
def Moment.text (m : Moment) : String :=
  let s := m.second
  m.date.text ++ "T" ++ padded 2 (s / 3600) ++ ":" ++ padded 2 (s / 60 % 60) ++ ":" ++
    padded 2 (s % 60) ++ "." ++ padded 3 (m.nano / 1000000) ++ "Z"

end Calendar
end SurveyLogic
