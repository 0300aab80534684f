import ScriptHost.Json.Decoder
import ScriptHost.Json.Printer

/-!
# Console output

* `LogLevel`: the methods of the console;
* `LogEntry`: one call of the console;
* `LogEntry.message`, `LogEntry.display`: a call on one line;
* `LogEntry.decoder`, `LogEntry.toJson`: a call as a document.
-/

namespace ScriptHost

/-- The method of the console that was called. -/
inductive LogLevel
  | log
  | info
  | warn
  | error
  | debug
  deriving DecidableEq, Repr, Inhabited

namespace LogLevel

/-- The levels in the order in which the console lists them. -/
def all : List LogLevel := [log, info, warn, error, debug]

def methodName : LogLevel → String
  | log => "log"
  | info => "info"
  | warn => "warn"
  | error => "error"
  | debug => "debug"

def decoder : Decoder LogLevel := Decoder.variant (all.map fun l => (l.methodName, l))

end LogLevel

/-- One call of the console: its level and its arguments. -/
structure LogEntry where
  level : LogLevel
  args : List Json
  deriving Repr

/-- An argument on a line: strings as they are, other documents as compact text. -/
def Json.plainText : Json → String
  | .str s => s
  | j => j.render

namespace LogEntry

/-- The arguments on one line, between blanks. -/
def message (e : LogEntry) : String := String.intercalate " " (e.args.map Json.plainText)

/-- The entry on one line, its level in brackets. -/
def display (e : LogEntry) : String := "[" ++ e.level.methodName ++ "] " ++ e.message

end LogEntry

/-! ### Stamped entries -/

/-- An entry with the milliseconds at which it was made. -/
structure StampedEntry extends LogEntry where
  timestamp : Int

namespace StampedEntry

/-- An entry whose fields are not all read yet. -/
structure Draft where
  level : Option LogLevel := none
  args : Option (List Json) := none
  timestamp : Option Int := none

def shape : Decoder.Shape where
  name := "LogEntry"
  fields := ["level", "args", "timestamp"]
  lenient := true
  short := false
  long := false

def Draft.fill (key : String) (d : Draft) : Decoder Draft := fun j =>
  if key = "level" then (LogLevel.decoder j).map fun l => { d with level := some l }
  else if key = "args" then
    (Decoder.list Decoder.any j).map fun js => { d with args := some js }
  else (Decoder.int64 j).map fun n => { d with timestamp := some n }

/-- The strict reading of an entry: its three fields are there and have their types. -/
def decoder : Decoder StampedEntry := fun j => do
  let d ← Decoder.record shape Draft.fill {} j
  let level ← Decoder.required "level" d.level
  let args ← Decoder.required "args" d.args
  let timestamp ← Decoder.required "timestamp" d.timestamp
  .ok { level, args, timestamp }

/-- The document of an entry. -/
def toJson (e : StampedEntry) : Json :=
  .obj [("args", .arr e.args), ("level", .str e.level.methodName), ("timestamp", .int e.timestamp)]

end StampedEntry

end ScriptHost
