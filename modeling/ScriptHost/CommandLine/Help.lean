import ScriptHost.CommandLine.Setting

/-!
# Help texts

* `Topic.text`: what the program says about itself and about each of its commands.

The texts are laid out from what is said about each setting: its spellings in one column, its
meaning in the next.
-/

namespace ScriptHost

namespace CommandLine

/-- A line of two columns, of which the first has the given width. -/
def columns (width : Nat) (row : String × String) : String :=
  "  " ++ row.1.pushn ' ' (width - row.1.length) ++ "  " ++ row.2

/-- A heading with lines of two columns below it; nothing if there are none. -/
def block (heading : String) (rows : List (String × String)) : List String :=
  if rows.isEmpty then []
  else
    let width := (rows.map fun r => r.1.length).foldl max 0
    "" :: (heading ++ ":") :: rows.map (columns width)

namespace Setting

/-- The spellings of a setting, the long ones one below the other. -/
def spellings (s : Setting) : String :=
  match s.letter? with
  | some c => String.ofList ['-', c, ','] ++ " " ++ s.label
  | none => if s.longName?.isSome then "    " ++ s.label else s.label

/-- What a setting is for. -/
def meaning : Setting → String
  | file => "Script to evaluate"
  | config => "Sandbox configuration (TOML with [permissions] and [limits])"
  | fixtures => "JSON object of canned responses keyed by \"namespace.method\""
  | timeout => "Wall-clock budget in milliseconds (overrides the config file)"
  | deny => "Deny a namespace (repeatable)"
  | allow => "Allow a namespace (repeatable)"
  | altDialect =>
    "Force (true) or disable (false) typed-dialect handling [possible values: true, false]"
  | json => "Emit JSON instead of text"
  | verbose => "Enable verbose debug logging"
  | help => "Print help"

end Setting

namespace Topic

/-- What the program or a command is for. -/
def purpose : Topic → String
  | program => "Run BIM scripts in a resource-limited sandbox"
  | run => "Evaluate a script file"
  | schema => "Print every namespace and method scripts can call"
  | help => "Print this message or the help of the given subcommand(s)"

/-- How the command line goes on after the name of the program. -/
def usage : Topic → String
  | program => "[OPTIONS] <COMMAND>"
  | run => "run [OPTIONS] <FILE>"
  | schema => "schema [OPTIONS]"
  | help => "help [COMMAND]..."

/-- The commands, where they are to be listed. -/
def commandRows : Topic → List (String × String)
  | program => commands.map fun (name, t) => (name, t.purpose)
  | _ => []

/-- The words that stand for themselves. -/
def argumentRows : Topic → List (String × String)
  | run => [(Setting.file.spellings, Setting.file.meaning)]
  | help => [("[COMMAND]...", "Print help for the subcommand(s)")]
  | _ => []

/-- The settings in the order in which they are listed. -/
def listed : Topic → List Setting
  | run => [.config, .verbose, .fixtures, .timeout, .deny, .allow, .altDialect, .help]
  | t => t.settings

def optionRows (t : Topic) : List (String × String) :=
  t.listed.map fun s => (s.spellings, s.meaning)

/-- What the program says about itself or about a command. -/
def text (t : Topic) : String :=
  let lines := [t.purpose, "", "Usage: " ++ programName ++ " " ++ t.usage]
    ++ block "Commands" t.commandRows ++ block "Arguments" t.argumentRows
    ++ block "Options" t.optionRows
  String.join (lines.map fun l => l ++ "\n")

end Topic

end CommandLine

end ScriptHost
