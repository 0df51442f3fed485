/-
# Reading dates

Five forms, tried in this order:

| form | example |
| --- | --- |
| timestamp with offset | `2024-03-01T02:00:00.5+02:00`, `2024-03-01 00:00:00Z` |
| local date and time | `2024-03-01T00:00:00`, `2024-3-1T7:5:0.25` |
| the same with blanks or nothing between | `2024-03-01 00:00:00` |
| without seconds | `2024-03-01T00:00` |
| date | `2024-03-01` |

A timestamp has two digits for each part and four for the year. The other forms take up to that many
and allow blanks before each number, and a year with a sign may have any number of digits. All are
read as universal time, and nothing may follow.
-/

import SurveyLogic.Calendar.Moment
import SurveyLogic.Number.Read
import SurveyLogic.Text.Blank

namespace SurveyLogic
namespace Calendar

namespace Reader

/-- A part of a form: what it finds at the front of a text, and the rest. -/
abbrev Part (α : Type) := StateT (List Char) Option α

/-- Nothing but the given character. -/
def char (c : Char) : Part Unit := fun cs =>
  match cs with
  | d :: cs => if c = d then some ((), cs) else none
  | [] => none

/-- One of some characters. -/
def oneOf (allowed : List Char) : Part Char := fun cs =>
  match cs with
  | c :: cs => if allowed.contains c then some (c, cs) else none
  | [] => none

/-- Blanks, or none. -/
def blanks : Part Unit := fun cs =>
  some ((), Text.trimLeft cs)

/-- A row of at least `least` and at most `most` digits. -/
def digits (least most : Nat) : Part (List Char) := fun cs =>
  let ds := (cs.take most).takeWhile (·.isDigit)
  if least ≤ ds.length then some (ds, cs.drop ds.length) else none

/-- A number of exactly `n` digits. -/
def exactly (n : Nat) : Part Nat :=
  Number.digitsValue <$> digits n n

/-- A number of one or two digits, perhaps after blanks. -/
def short : Part Nat := do
  blanks
  Number.digitsValue <$> digits 1 2

/-- A year after blanks: with a sign of any length, without one of up to four digits. -/
def year : Part Int := do
  blanks
  let cs ← get
  match cs with
  | '-' :: rest => do
    set rest
    return -(Number.digitsValue (← digits 1 rest.length) : Int)
  | '+' :: rest => do
    set rest
    return Number.digitsValue (← digits 1 rest.length)
  | _ => return Number.digitsValue (← digits 1 4)

/-- Nanoseconds behind a point, if there is one: nine digits count and any others are dropped. -/
def fraction : Part Nat := fun cs =>
  match cs with
  | '.' :: cs =>
    let ds := cs.takeWhile (·.isDigit)
    if ds.isEmpty then none
    else
      let nine := (ds ++ List.replicate (9 - ds.length) '0').take 9
      some (Number.digitsValue nine, cs.drop ds.length)
  | cs => some (0, cs)

/-- A date of the given parts. -/
def dateOf (year : Int) (month day : Nat) : Part Date := fun cs =>
  (Date.ofParts? year month day).map (·, cs)

/-- The moment of a date and a time of day. A 60th second is a leap second. -/
def momentOf (d : Date) (hour minute second nano : Nat) : Part Moment := fun cs =>
  if 24 ≤ hour || 60 ≤ minute || 60 < second then none
  else
    let leap := if second = 60 then 1 else 0
    some (⟨d.toNumber, 3600 * hour + 60 * minute + (second - leap), nano + leap * 1000000000⟩, cs)

/-- The offset of a timestamp in seconds: `Z`, or a sign, hours, a colon and minutes. -/
def offset : Part Int := do
  let sign ← oneOf ['Z', 'z', '+', '-', '−']
  if sign = 'Z' || sign = 'z' then return 0
  let hours ← exactly 2
  char ':'
  let minutes ← exactly 2
  if 23 < hours || 59 < minutes then failure
  let seconds : Int := 3600 * hours + 60 * minutes
  return if sign = '+' then seconds else -seconds

/-- A timestamp with an offset. -/
def timestamp : Part Moment := do
  let y ← exactly 4
  char '-'
  let mo ← exactly 2
  char '-'
  let d ← exactly 2
  let _ ← oneOf ['t', 'T', ' ']
  let h ← exactly 2
  char ':'
  let mi ← exactly 2
  char ':'
  let s ← exactly 2
  let nano ← fraction
  let ahead ← offset
  let m ← momentOf (← dateOf y mo d) h mi s nano
  return m.behind ahead

/-- Year, month and day with hyphens between them. -/
def date : Part Date := do
  let y ← year
  char '-'
  let mo ← short
  char '-'
  let d ← short
  dateOf y mo d

/-- Hours and minutes behind a date, and the rest of the time as `tail` reads it. -/
def timeAfter (between : Part Unit) (tail : Part (Nat × Nat)) : Part Moment := do
  let d ← date
  between
  let h ← short
  char ':'
  let mi ← short
  let (s, nano) ← tail
  momentOf d h mi s nano

/-- Seconds behind a colon, perhaps with a fraction. -/
def seconds : Part (Nat × Nat) := do
  char ':'
  let s ← short
  return (s, ← fraction)

/-- The forms in the order in which they are tried. -/
def forms : List (Part Moment) :=
  [timestamp, timeAfter (char 'T') seconds, timeAfter blanks seconds,
    timeAfter (char 'T') (pure (0, 0)), Moment.startOf <$> date]

end Reader

/-- The moment that a text writes in one of the forms, blanks at its ends not counted. -/
def Moment.ofText? (s : String) : Option Moment :=
  let cs := Text.trimRight (Text.trimLeft s.toList)
  Reader.forms.findSome? fun form =>
    match form.run cs with
    | some (m, []) => some m
    | _ => none

example : (Moment.ofText? "2024-03-01T02:00:00+02:00").map Moment.text =
    some "2024-03-01T00:00:00.000Z" := by
  decide +kernel

example : (Moment.ofText? "2024-3-1").map Moment.text = some "2024-03-01T00:00:00.000Z" ∧
    Moment.ofText? "2023-02-29" = none := by
  decide +kernel

end Calendar
end SurveyLogic
