import ScriptHost.Library.DateReading
import ScriptHost.Library.Functions

/-!
# Dates

* `DateMethod.run`, `makeDate`: the functions and methods of dates.
-/

namespace ScriptHost

/-! ### Receivers -/

/-- The time of a date. -/
def dateTime (this : Value) : Script (Ref × Double) := do
  match this with
  | .object r =>
    match (← readObject r).kind with
    | .date t => return (r, t)
    | _ => throwType "not a Date object"
  | _ => throwType "not a Date object"

/-- A part of a moment. -/
def Moment.get (m : Moment) (t : Int) : DateField → Int
  | .year => m.year
  | .month => m.month
  | .day => m.day
  | .hours => m.hours
  | .minutes => m.minutes
  | .seconds => m.seconds
  | .milliseconds => m.milliseconds
  | .weekday => Moment.weekday t

/-- The place of a field among the parts of a moment. -/
def DateField.place : DateField → Nat
  | year => 0
  | month => 1
  | day => 2
  | hours => 3
  | minutes => 4
  | seconds => 5
  | milliseconds => 6
  | weekday => 7

/-- The parts of a moment with a part set, and parts after it. -/
def Moment.set (m : Moment) (field : DateField) (new : List Double) : List Double :=
  let old := m.parts.map Double.ofInt
  old.take field.place ++ new ++ old.drop (field.place + new.length)

/-- How many parts a setter takes. -/
def DateField.arity : DateField → Nat
  | year | minutes => 3
  | month | seconds => 2
  | hours => 4
  | _ => 1

/-- The whole parts of arguments; none if one of them is no finite number. -/
def wholeNumbers (args : List Value) : Script (Option (List Double)) := do
  let ds ← args.mapM toNumber
  return if ds.all Double.isFinite then some (ds.map Double.trunc) else none

/-- A year, where one below one hundred is in the twentieth century. -/
def nearYear (d : Double) : Double :=
  match d.toInt? with
  | some y => if 0 ≤ y && y < 100 then .ofInt (y + 1900) else d
  | none => d

/-- A time from arguments that are its parts. -/
def timeOfArguments (args : List Value) : Script Double := do
  match ← wholeNumbers (args.take 7) with
  | some (year :: rest) => return timeOfParts (nearYear year :: rest)
  | _ => return .nan

/-! ### Methods -/

/-- The text of a time; that of no time cannot be written for machines. -/
def timeText (style : DateStyle) (t : Double) : Script Value :=
  match t.toInt?, style with
  | some n, style => return .ofString (DateText.write style n)
  | none, .iso => throwNew .rangeError "Date value is NaN"
  | none, _ => return .ofString "Invalid Date"

/-- Sets parts of a date. -/
def setParts (this : Value) (field : DateField) (args : List Value) : Script Value := do
  let (r, t) ← dateTime this
  let ns ← wholeNumbers (args.take field.arity)
  let start := t.toInt?.orElse fun _ => if field = .year then some 0 else none
  let new := match ns, start with
    | some (n :: rest), some start => timeOfParts ((Moment.ofTime start).set field (n :: rest))
    | _, _ => .nan
  become r (.date new)
  return .number new

/-- What a function of `Date` or a method of dates does. -/
def DateMethod.run (f : DateMethod) (this : Value) (args : List Value) : Script Value :=
  let first := argument args 0
  match f with
  | .now => return .ofNat 0
  | .parse => do return .number (DateText.read (← ScriptHost.toText first))
  | .utc => do return .number (← timeOfArguments args)
  | .valueOf => do return .number (← dateTime this).2
  | .toText style => do timeText style (← dateTime this).2
  | .toPrimitive => do
    let _ ← requireObject this "not an object"
    if first = .ofString "number" || first = .ofString "integer" then
      askMethods this Hint.number.methods
    else if first = .ofString "string" || first = .ofString "default" then
      askMethods this Hint.text.methods
    else throwType "invalid hint"
  | .offset => do
    let (_, t) ← dateTime this
    return .number (if t.isNaN then .nan else .zero false)
  | .shortYear => do
    let (_, t) ← dateTime this
    return .number ((t.toInt?.map fun n => .ofInt ((Moment.ofTime n).year - 1900)).getD .nan)
  | .get field => do
    let (_, t) ← dateTime this
    return .number ((t.toInt?.map fun n => .ofInt ((Moment.ofTime n).get n field)).getD .nan)
  | .set field => setParts this field args
  | .setShortYear => do
    let _ ← dateTime this
    let year ← toNumber first
    setParts this .year [.number (if year.isFinite then nearYear year.trunc else year)]
  | .setTime => do
    let (r, _) ← dateTime this
    let t := clipTime (← toNumber first)
    become r (.date t)
    return .number t
  | .toJson => do
    let v : Value := .object (← toObject this)
    match ← ScriptHost.toPrimitive .number v with
    | .number d => if d.isFinite then write v else return .null
    | _ => write v
where
  /-- Asks an object for its text for machines. -/
  write (v : Value) : Script Value := do
    let f ← getProperty v "toISOString"
    if ← isCallable f then call f v [] else throwType "object needs toISOString method"

/-- A new date: from parts, from a text, or from a time; a plain call gives a text. -/
def makeDate (how : Invocation) (args : List Value) : Script Value := do
  match how with
  | .plain _ => return .ofString (DateText.write .full 0)
  | .making _ =>
    let time ← match args with
      | [] => pure (.zero false)
      | [v] => do
        let v ← match v with
          | .object r =>
            match (← readObject r).kind with
            | .date t => pure (.number t)
            | _ => toPrimitive .neither v
          | v => pure v
        match v with
        | .string t => pure (DateText.read t)
        | v => do pure (clipTime (← toNumber v))
      | args => timeOfArguments args
    return .object (← newInstance how .date (.date time))

end ScriptHost
