/-
# Dates

| function | value |
| --- | --- |
| `today()`, `currentdate()`, `now()` | the date, the moment as a text, the moment in milliseconds |
| `year(d)`, `month(d)`, `day(d)` | a part of a date |
| `age(d)` | whole years from a date to today |
| `datediff(a, b, unit)` | the time from `a` to `b` in whole units, fractions dropped |

A date is a text in one of the forms of the calendar, or a number of milliseconds since the start of
1970. A missing date is the current moment, except where time is counted from. What is no date gives
`null`. Units are years, hours, minutes and seconds, in any case and with or without `s` at the end;
any other unit counts days.
-/

import SurveyLogic.Calendar.Reader
import SurveyLogic.Library.Arguments
import SurveyLogic.Text.Case

namespace SurveyLogic
namespace Library

open Calendar

/-- The milliseconds that a number stands for, its fraction dropped. -/
def milliseconds? (x : Float) : Option Int :=
  if x.isNaN then some 0 else Number.toInt? x

/-- The moment that a value stands for. -/
def moment? : Value → Option Moment
  | .string s => Moment.ofText? s
  | .number x => (milliseconds? x).bind Moment.ofMilliseconds?
  | _ => none

/-- The moment that a value stands for, the current one for a missing value. -/
def momentOr (now : Int) : Value → Option Moment
  | .null => Moment.ofMilliseconds? now
  | v => moment? v

/-- A unit of time. -/
inductive TimeUnit where
  | years
  | days
  | hours
  | minutes
  | seconds
  deriving DecidableEq, Repr

/-- The unit that a value names. -/
def TimeUnit.ofValue : Value → TimeUnit
  | .null => days
  | v =>
    let name := (Text.lower v.toText).toList
    match String.ofList (name.reverse.dropWhile (· = 's')).reverse with
    | "year" => years
    | "hour" => hours
    | "minute" => minutes
    | "second" => seconds
    | _ => days

/-- The whole units from one moment to another. -/
def TimeUnit.between (u : TimeUnit) (a b : Moment) : Int :=
  match u with
  | years => yearsBetween a.date b.date
  | days => (a.secondsBetween b).tdiv 86400
  | hours => (a.secondsBetween b).tdiv 3600
  | minutes => (a.secondsBetween b).tdiv 60
  | seconds => a.secondsBetween b

/-- A part of the date of a moment, `null` if there is no moment. -/
def partOf (part : Date → Int) (m : Option Moment) : Value :=
  orNull (m.map fun m => whole (part m.date))

/-- The time between two dates. -/
def dateDifference (now : Int) (a b unit : Value) : Value :=
  orNull do
    let a ← moment? a
    let b ← momentOr now b
    return whole ((TimeUnit.ofValue unit).between a b)

/-- The years between a date and now. -/
def age (now : Int) (v : Value) : Value :=
  orNull do
    let birth ← moment? v
    let today ← Moment.ofMilliseconds? now
    return whole (yearsBetween birth.date today.date)

/-- The current moment in a form. -/
def currentText (form : Moment → String) (now : Int) : Value :=
  orNull ((Moment.ofMilliseconds? now).map fun m => .string (form m))

/-- The functions of this family, which take the current time in milliseconds. -/
def dates : List (String × (Int → List Value → Value)) := [
  ("today", fun now _ => currentText (·.date.text) now),
  ("currentdate", fun now _ => currentText Moment.text now),
  ("now", fun now _ => whole now),
  ("year", fun now args => partOf (·.year) (momentOr now (arg args 0))),
  ("month", fun now args => partOf (fun d => d.month) (momentOr now (arg args 0))),
  ("day", fun now args => partOf (fun d => d.day) (momentOr now (arg args 0))),
  ("age", fun now args => age now (arg args 0)),
  ("datediff", fun now args => dateDifference now (arg args 0) (arg args 1) (arg args 2))]

end Library
end SurveyLogic
