import ScriptHost.Engine.Builtin
import ScriptHost.Number.Arithmetic

/-!
# Moments

* `Calendar.ofDay`, `Calendar.toDay`: days counted from 1970 on, and their year, month and day;
* `Moment`: the parts of a moment;
* `timeOfParts`: the time that parts tell, which may lie outside of their bounds;
* `DateText.write`: the text of a time.

There is one time zone, that of the meridian.
-/

namespace ScriptHost

/-! ### The calendar -/

namespace Calendar

/-- The day of a date, counted from the first of 1970; months are counted from zero, and may lie
outside of the year. -/
def toDay (year month day : Int) : Int :=
  let y := year + month.fdiv 12
  let m := month.fmod 12
  -- years that begin in March have the odd day at their end
  let (y, m) := if m < 2 then (y - 1, m + 10) else (y, m - 2)
  let era := y.fdiv 400
  let yearOfEra := y.fmod 400
  let dayOfYear := (153 * m + 2) / 5 + (day - 1)
  era * 146097 + yearOfEra * 365 + yearOfEra / 4 - yearOfEra / 100 + dayOfYear - 719468

/-- The year, month and day of a day. -/
def ofDay (n : Int) : Int × Int × Int :=
  let z := n + 719468
  let era := z.fdiv 146097
  let dayOfEra := z.fmod 146097
  let yearOfEra := (dayOfEra - dayOfEra / 1460 + dayOfEra / 36524 - dayOfEra / 146096) / 365
  let dayOfYear := dayOfEra - (365 * yearOfEra + yearOfEra / 4 - yearOfEra / 100)
  let m := (5 * dayOfYear + 2) / 153
  let day := dayOfYear - (153 * m + 2) / 5 + 1
  let year := yearOfEra + era * 400
  if m < 10 then (year, m + 2, day) else (year + 1, m - 10, day)

def monthNames : List String :=
  ["Jan", "Feb", "Mar", "Apr", "May", "Jun", "Jul", "Aug", "Sep", "Oct", "Nov", "Dec"]

def dayNames : List String := ["Sun", "Mon", "Tue", "Wed", "Thu", "Fri", "Sat"]

end Calendar

/-- The parts of a moment. -/
structure Moment where
  year : Int
  month : Int
  day : Int
  hours : Int
  minutes : Int
  seconds : Int
  milliseconds : Int

namespace Moment

/-- The milliseconds of a day. -/
def dayLength : Int := 86400000

/-- The parts of a moment that is given in milliseconds. -/
def ofTime (t : Int) : Moment :=
  let (year, month, day) := Calendar.ofDay (t.fdiv dayLength)
  let rest := t.fmod dayLength
  { year, month, day
    hours := rest / 3600000, minutes := rest / 60000 % 60, seconds := rest / 1000 % 60
    milliseconds := rest % 1000 }

/-- The parts from the year to the milliseconds. -/
def parts (m : Moment) : List Int :=
  [m.year, m.month, m.day, m.hours, m.minutes, m.seconds, m.milliseconds]

/-- The day of the week of a moment, from Sunday on. -/
def weekday (t : Int) : Int := (t.fdiv dayLength + 4).fmod 7

end Moment

/-- The greatest distance from 1970 that a date can have. -/
def maxTime : Nat := 8640000000000000

/-- A time as dates keep it. -/
def clipTime (d : Double) : Double :=
  match d.decode with
  | .finite .. =>
    let n := d.toIntTrunc
    if n.natAbs ≤ maxTime then .ofInt n else .nan
  | _ => .nan

/-- The first and the last year that parts may begin with. -/
def firstYear : Int := -271821
def lastYear : Int := 275760

/-- The time that parts tell, from the year to the milliseconds; those that are absent are the least
ones.  Sums and products are rounded in this order, so that parts which make up for each other tell
what numbers of this size can tell. -/
def timeOfParts (parts : List Double) : Double :=
  let part (i : Nat) (absent : Int) : Double := parts.getD i (.ofInt absent)
  let months := part 1 0
  let year := (part 0 1970).add (months.div (.ofInt 12)).floor
  match year.toInt?, (months.rem (.ofInt 12)).toInt? with
  | some y, some m =>
    if firstYear ≤ y && y ≤ lastYear then
      let day := ((Double.ofInt (Calendar.toDay y (m.fmod 12) 1)).add (part 2 1)).sub (.ofInt 1)
      let hours := (part 3 0).mul (.ofInt 3600000)
      let minutes := hours.add ((part 4 0).mul (.ofInt 60000))
      let time := (minutes.add ((part 5 0).mul (.ofInt 1000))).add (part 6 0)
      clipTime ((day.mul (.ofInt Moment.dayLength)).add time)
    else .nan
  | _, _ => .nan

/-! ### Texts -/

namespace DateText

/-- A number with at least so many digits. -/
def digits (width : Nat) (n : Int) : String :=
  let ds := (toString n.natAbs).toList
  (if n < 0 then "-" else "") ++ String.ofList (List.replicate (width - ds.length) '0' ++ ds)

def monthName (m : Moment) : String := Calendar.monthNames.getD m.month.toNat ""
def dayName (t : Int) : String := Calendar.dayNames.getD (Moment.weekday t).toNat ""

/-- The time of day in hours, minutes and seconds. -/
def clock (m : Moment) : String :=
  digits 2 m.hours ++ ":" ++ digits 2 m.minutes ++ ":" ++ digits 2 m.seconds

def longDay (t : Int) (m : Moment) : String :=
  dayName t ++ " " ++ monthName m ++ " " ++ digits 2 m.day ++ " " ++ digits 4 m.year

def shortDay (m : Moment) : String :=
  digits 2 (m.month + 1) ++ "/" ++ digits 2 m.day ++ "/" ++ digits 4 m.year

def shortClock (m : Moment) : String :=
  digits 2 ((m.hours + 11) % 12 + 1) ++ ":" ++ digits 2 m.minutes ++ ":" ++ digits 2 m.seconds
    ++ (if m.hours < 12 then " AM" else " PM")

/-- The year of the format for machines, which may have six digits and a sign. -/
def isoYear (y : Int) : String :=
  if 0 ≤ y && y ≤ 9999 then digits 4 y
  else (if y < 0 then "-" else "+") ++ digits 6 y.natAbs

/-- The text of a time in a style. -/
def write (style : DateStyle) (t : Int) : String :=
  let m := Moment.ofTime t
  match style with
  | .full => longDay t m ++ " " ++ clock m ++ " GMT+0000"
  | .utc =>
    dayName t ++ ", " ++ digits 2 m.day ++ " " ++ monthName m ++ " " ++ digits 4 m.year ++ " "
      ++ clock m ++ " GMT"
  | .iso =>
    isoYear m.year ++ "-" ++ digits 2 (m.month + 1) ++ "-" ++ digits 2 m.day ++ "T" ++ clock m
      ++ "." ++ digits 3 m.milliseconds ++ "Z"
  | .day => longDay t m
  | .time => clock m ++ " GMT+0000"
  | .locale => shortDay m ++ ", " ++ shortClock m
  | .localeDay => shortDay m
  | .localeTime => shortClock m

end DateText

end ScriptHost
