import ScriptHost.Library.Moments
import ScriptHost.Number.Natural
import ScriptHost.Text.Digits
import ScriptHost.Text.Units

/-!
# Reading dates

* `DateParts`: a date as a text tells it, and `DateParts.time`, the time that it is;
* `DateText.standard?`: a date in the format for machines, such as `2000-01-31T23:59:00.5Z`;
* `DateText.free?`: a date in words and numbers, such as `Jan 31, 2000 11:59 PM`;
* `DateText.read`: the time that a text tells.
-/

namespace ScriptHost

/-- A date as a text tells it: months and days are counted from one on, and the zone is a distance
in minutes. -/
structure DateParts where
  year : Int
  month : Nat
  day : Nat
  hours : Nat
  minutes : Nat
  seconds : Nat
  milliseconds : Nat
  zone : Int

namespace DateParts

/-- The first day of a year. -/
def ofYear (y : Int) : DateParts := ⟨y, 1, 1, 0, 0, 0, 0, 0⟩

/-- Whether all parts are within their bounds; a day may end at twenty-four hours. -/
def isValid (d : DateParts) : Bool :=
  1 ≤ d.month && d.month ≤ 12 && 1 ≤ d.day && d.day ≤ 31 && d.minutes < 60 && d.seconds < 60
    && (d.hours < 24 || (d.hours = 24 && d.minutes + d.seconds + d.milliseconds = 0))

/-- The time of a date.  Days that a month does not have are those of the next one. -/
def time (d : DateParts) : Double :=
  if d.isValid then
    let time := timeOfParts (([d.year, d.month - 1, d.day, d.hours, d.minutes, d.seconds,
      d.milliseconds] : List Int).map .ofInt)
    time.sub (.ofInt (d.zone * 60000))
  else .nan

end DateParts

namespace DateText

/-! ### Parts of texts -/

/-- How much of a text is looked at. -/
def longest : Nat := 127

/-- The number of as many digits as there are, within bounds, and what follows. -/
def number? (least most : Nat) (cs : List Char) : Option (Nat × List Char) :=
  let ds := (cs.take most).takeWhile Char.isDigit
  let n := Digits.decimal ds
  if least ≤ ds.length && n < 1000000000 then some (n, cs.drop ds.length) else none

/-- What follows a mark that may be there. -/
def after? (mark : Char) : List Char → Option (List Char)
  | c :: cs => if c = mark then some cs else none
  | [] => none

/-- The milliseconds of a fraction of a second, if there is one, and what follows. -/
def fraction? : List Char → Option (Nat × List Char)
  | c :: cs =>
    let ds := (cs.take 9).takeWhile Char.isDigit
    if (c = '.' || c = ',') && !ds.isEmpty then
      some (Digits.decimal ((ds ++ ['0', '0', '0']).take 3), cs.drop ds.length)
    else none
  | [] => none

/-- The distance of a zone after its sign, in minutes.  Of more than four digits the first count. -/
def distance? (strict : Bool) (cs : List Char) : Option (Nat × List Char) := do
  let (n, rest) ← number? 1 longest cs
  let count := cs.length - rest.length
  if strict && count ≠ 2 && count ≠ 4 then none
  else
    let surplus := (count - 3) / 2
    let n := n / tenTo (2 * surplus)
    let (h, m, rest) ←
      if 2 < count - 2 * surplus then some (n / 100, n % 100, rest)
      else match after? ':' rest with
        | some rest => (number? 2 2 rest).map fun (m, rest) => (n, m, rest)
        | none => some (n, 0, rest)
    if h ≤ 23 && m ≤ 59 then return (60 * h + m, rest) else none

/-- A zone: a distance with its sign. -/
def zone? (strict : Bool) : List Char → Option (Int × List Char)
  | '+' :: cs => (distance? strict cs).map fun (n, cs) => ((n : Int), cs)
  | '-' :: cs => (distance? strict cs).map fun (n, cs) => (-(n : Int), cs)
  | _ => none

/-! ### The format for machines -/

/-- The year: four digits, or six with a sign. -/
def standardYear? : List Char → Option (Int × List Char)
  | '+' :: cs => (number? 6 6 cs).map fun (n, cs) => ((n : Int), cs)
  | '-' :: cs => (number? 6 6 cs).bind fun (n, cs) => if n = 0 then none else some (-(n : Int), cs)
  | cs => (number? 4 4 cs).map fun (n, cs) => ((n : Int), cs)

/-- A month or a day after a dash, or else the first one. -/
def standardPart? (cs : List Char) : Option (Nat × List Char) :=
  match after? '-' cs with
  | some cs => (number? 2 2 cs).bind fun (n, cs) => if n = 0 then none else some (n, cs)
  | none => some (1, cs)

/-- The hours and minutes. -/
def standardClock? (cs : List Char) : Option (Nat × Nat × List Char) := do
  let (h, cs) ← number? 2 2 cs
  let (m, cs) ← number? 2 2 (← after? ':' cs)
  return (h, m, cs)

/-- The zone at the end. -/
def standardEnd? (d : DateParts) : List Char → Option DateParts
  | [] => some d
  | ['Z'] => some d
  | cs =>
    match zone? true cs with
    | some (zone, []) => some { d with zone }
    | _ => none

/-- A date in the format for machines.  If a `T` is not followed by a time of day, it is in this
format, but no hour of a day. -/
def standard? (cs : List Char) : Option DateParts := do
  let (year, cs) ← standardYear? cs
  let (month, cs) ← standardPart? cs
  let (day, cs) ← standardPart? cs
  let date := { DateParts.ofYear year with month, day }
  match after? 'T' cs with
  | none => standardEnd? date cs
  | some cs =>
    match standardClock? cs with
    | none => return { date with hours := 100 }
    | some (hours, minutes, cs) =>
      let d := { date with hours, minutes }
      match after? ':' cs with
      | none => standardEnd? d cs
      | some cs =>
        let (seconds, cs) ← number? 2 2 cs
        let (milliseconds, cs) := (fraction? cs).getD (0, cs)
        standardEnd? { d with seconds, milliseconds } cs

/-! ### Words and numbers -/

/-- What follows a word, in capitals or not. -/
def afterWord? : List Char → List Char → Option (List Char)
  | [], cs => some cs
  | w :: word, c :: cs => if w.toUpper = c.toUpper then afterWord? word cs else none
  | _ :: _, [] => none

/-- The month whose name begins a text, counted from one on. -/
def month? (cs : List Char) : Option Nat :=
  (Calendar.monthNames.findIdx? fun name => (afterWord? name.toList cs).isSome).map (· + 1)

/-- The names of zones, and their distances in hours. -/
def zoneNames : List (String × Int) :=
  [("GMT", 0), ("UTC", 0), ("UT", 0), ("Z", 0), ("EDT", -4), ("EST", -5), ("CDT", -5),
    ("CST", -6), ("MDT", -6), ("MST", -7), ("PDT", -7), ("PST", -8), ("WET", 0), ("WEST", 1),
    ("CET", 1), ("CEST", 2), ("EET", 2), ("EEST", 3)]

/-- The zone whose name begins a text, and what follows. -/
def zoneName? (cs : List Char) : Option (Int × List Char) :=
  zoneNames.findSome? fun (name, hours) =>
    (afterWord? name.toList cs).map fun rest => (60 * hours, rest)

/-- What follows a remark in parentheses, which may hold others. -/
def afterRemark? : Nat → List Char → Option (List Char)
  | depth, [] => if depth = 0 then some [] else none
  | depth, c :: cs =>
    let depth := if c = '(' then depth + 1 else if c = ')' then depth - 1 else depth
    if depth = 0 then some cs else afterRemark? depth cs

/-- A year of two digits is one of the years around 2000. -/
def fullYear (n : Nat) : Nat := if n < 50 then n + 2000 else if n < 100 then n + 1900 else n

/-- What words and numbers have told so far. -/
structure Telling where
  date : DateParts
  hasYear : Bool
  hasMonth : Bool
  hasTime : Bool
  /-- The numbers of which it is not yet clear what they are. -/
  numbers : List Nat

namespace Telling

/-- Nothing has been told; what is left out will be the first day of 2001. -/
def start : Telling := ⟨.ofYear 2001, false, false, false, []⟩

def isStart (t : Telling) : Bool := !t.hasYear && !t.hasMonth && !t.hasTime && t.numbers.isEmpty

def withYear (t : Telling) (y : Int) : Telling :=
  { t with date := { t.date with year := y }, hasYear := true }

/-- A zone that is told by its distance, if it is. -/
def withZone (t : Telling) (cs : List Char) : Telling × List Char :=
  match zone? false cs with
  | some (zone, cs) => ({ t with date := { t.date with zone } }, cs)
  | none => (t, cs)

/-- The rest of a time of day, after its hours. -/
def clock? (t : Telling) (hours : Nat) (cs : List Char) : Option (Telling × List Char) := do
  let (minutes, cs) ← number? 1 2 cs
  let d := { t.date with hours, minutes }
  let (d, cs) ← match after? ':' cs with
    | none => some (d, cs)
    | some cs => do
      let (seconds, cs) ← number? 1 2 cs
      match fraction? cs with
      | some (milliseconds, cs) => some ({ d with seconds, milliseconds }, cs)
      | none => some ({ d with seconds }, cs)
  return withZone { t with date := d, hasTime := true } cs

/-- A number of so many digits: a year if it cannot be anything else. -/
def number? (t : Telling) (n digits : Nat) : Option Telling :=
  if !t.hasYear && 2 < digits then some (t.withYear n)
  else if !t.hasYear && (n < 1 || 31 < n) then some (t.withYear (fullYear n))
  else if t.numbers.length = 3 then none
  else some { t with numbers := t.numbers ++ [n] }

/-- A sign, before a zone or a year. -/
def sign? (t : Telling) (neg : Bool) (cs : List Char) : Option (Telling × List Char) :=
  match DateText.number? 1 longest cs with
  | some (n, rest) =>
    if neg && n = 0 then none else some (t.withYear (if neg then -(n : Int) else n), rest)
  | none => some (t, cs)

/-- Hours after noon, or before. -/
def half? (t : Telling) (cs : List Char) : Option (Option Telling × List Char) :=
  if !t.hasTime then none
  else
    let h := t.date.hours
    match afterWord? ['P', 'M'] cs, afterWord? ['A', 'M'] cs with
    | some rest, _ =>
      some (some { t with date := { t.date with hours := if h = 12 then 12 else h + 12 } }, rest)
    | none, some rest =>
      some (if 12 < h then none
        else some { t with date := { t.date with hours := h % 12 } }, rest)
    | none, none => none

/-- What follows marks between parts. -/
def afterMarks (cs : List Char) : List Char :=
  cs.dropWhile fun c => c = '-' || c = '/' || c = '.' || c = ','

/-- What follows a word. -/
def afterLetters (digits : Bool) (cs : List Char) : List Char :=
  cs.dropWhile fun c => !(c = ' ' || c = '-' || c = '/' || c = '(' || digits && c.isDigit)

/-- A part of a text, which begins with a letter or a mark. -/
def word? (t : Telling) (cs : List Char) : Option (Telling × List Char) :=
  match month? cs, t.half? cs, zoneName? cs with
  | some month, _, _ =>
    some ({ t with date := { t.date with month }, hasMonth := true },
      afterMarks (afterLetters true (cs.drop 3)))
  | none, some (t, rest), _ => t.map fun t => (t, rest)
  | none, none, some (zone, rest) =>
    let t := { t with date := { t.date with zone } }
    some (t, if t.hasTime && rest.head? = some '-' then rest else afterMarks rest)
  | none, none, none =>
    if cs.head? = some '(' then (afterRemark? 0 cs).map fun rest => (t, afterMarks rest)
    else if cs.head? = some ')' || !t.isStart then none
    else some (t, afterMarks (afterLetters false cs))

/-- The next part of a text, and what follows. -/
def next? (t : Telling) (cs : List Char) : Option (Telling × List Char) :=
  match cs, DateText.number? 1 longest cs with
  | _, some (n, rest) =>
    match after? ':' rest with
    | some rest => (t.clock? n rest).map fun (t, rest) => (t, afterMarks rest)
    | none => (t.number? n (cs.length - rest.length)).map fun t => (t, afterMarks rest)
  | c :: cs, none =>
    if c = '+' || c = '-' then
      match zone? false (c :: cs) with
      | some (zone, rest) =>
        if t.hasTime then some ({ t with date := { t.date with zone } }, afterMarks rest)
        else (t.sign? (c = '-') cs).map fun (t, rest) => (t, afterMarks rest)
      | none => (t.sign? (c = '-') cs).map fun (t, rest) => (t, afterMarks rest)
    else t.word? (c :: cs)
  | [], none => some (t, [])

/-- Reads a text to its end, in so many parts at most. -/
def readAll? : Nat → Telling → List Char → Option Telling
  | 0, _, _ => none
  | fuel + 1, t, cs =>
    match cs.dropWhile (· = ' ') with
    | [] => some t
    | cs => (t.next? cs).bind fun (t, rest) => readAll? fuel t rest

/-- The date that has been told: numbers are months before days before years, unless those have been
told. -/
def date? (t : Telling) : Option DateParts :=
  let d := t.date
  match t.numbers, t.hasYear, t.hasMonth with
  | [], true, _ => some d
  | [day], _, true => some { d with day }
  | [month], _, false => some { d with month }
  | [month, day], _, false => some { d with month, day }
  | [day, year], false, true => some { d with day, year := fullYear year }
  | [month, day, year], false, false => some { d with month, day, year := fullYear year }
  | _, _, _ => none

end Telling

/-- A date in words and numbers. -/
def free? (cs : List Char) : Option DateParts :=
  (Telling.readAll? (cs.length + 1) .start cs).bind Telling.date?

/-! ### Texts of dates -/

/-- The characters of a text that are looked at: not all of a long text, and none after a NUL.  A
minus sign is a dash, and any other character of more than one byte is like a letter. -/
def characters (t : Text) : List Char :=
  ((t.units.take longest).takeWhile (· ≠ 0)).map fun u =>
    if u.toNat < 256 then Char.ofNat u.toNat else if u.toNat = 0x2212 then '-' else 'x'

/-- The time that a text tells, or a NaN. -/
def read (t : Text) : Double :=
  let cs := characters t
  match (standard? cs).orElse fun _ => free? cs with
  | some d => d.time
  | none => .nan

end DateText

end ScriptHost
