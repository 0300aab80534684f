import ScriptHost.CommandLine.Command
import ScriptHost.CommandLine.Help
import ScriptHost.Files
import ScriptHost.Sandbox

/-!
# What the program answers

* `Answer`: an exit code, what is printed and what is complained about;
* `RunOptions.layered`: the configuration that the options of a run ask for;
* `Command.perform`, `answer`: the answer to a command, and to a command line.
-/

namespace ScriptHost

namespace CommandLine

/-! ### Answers -/

/-- What is printed. -/
inductive Printed
  | text (s : String)
  | document (j : Json)

/-- The answer to a command line. -/
structure Answer where
  exitCode : Nat
  printed : Printed := .text ""
  /-- What is complained about, apart from what is printed. -/
  complaint : String := ""

namespace Answer

def failure (message : String) : Answer :=
  { exitCode := 2, complaint := "error: " ++ message ++ "\n" }

def ofSuccess (j : Json) : Answer := { exitCode := 0, printed := .document j }

/-- The answer to words that are not followed to a command. -/
def ofStop : Stop → Answer
  | .fault f => failure (f.message ++ "\n\nFor more information, try '--help'.")
  | .help topic => { exitCode := 0, printed := .text topic.text }
  | .nothing => { exitCode := 2, complaint := Topic.program.text }

end Answer

/-! ### The table of capabilities -/

/-- Whether a permission is granted by default, in words. -/
def defaultInWords (p : Permission) : String :=
  if p.grantedByDefault then "granted by default" else "denied by default"

/-- The table as lines of text. -/
def schemaText (r : Registry) : String :=
  let lines := r.flatMap fun ns =>
    (rootName ++ "." ++ ns.name ++ " (" ++ defaultInWords ns.permission ++ ")")
      :: ns.methods.map fun m => "  " ++ m.signature
  String.join (lines.map fun l => l ++ "\n")

/-- The table as a document. -/
def schemaDocument (r : Registry) : Json :=
  .arr (r.map fun ns => .obj
    [("grantedByDefault", .bool ns.permission.grantedByDefault),
      ("methods", .strings (ns.methods.map Method.signature)),
      ("namespace", .str ns.name), ("permission", .str ns.permission.key)])

/-! ### Configurations -/

/-- The words for a configuration that is not to be used. -/
def configComplaint (reason : String) : String := (SandboxError.invalidConfig reason).message ""

namespace RunOptions

/-- Denies permissions, of which none may be allowed as well. -/
def denied (allow : List Permission) : List Permission → Config → Except String Config
  | [], c => .ok c
  | p :: rest, c =>
    if allow.contains p then .error ("'" ++ p.key ++ "' is both allowed and denied")
    else denied allow rest (c.withPermission p false)

/-- The options on top of a configuration. -/
def layered (o : RunOptions) (base : Config) : Except String Config :=
  let c := (o.timeoutMs.map base.withTimeout).getD base
  denied o.allow o.deny (o.allow.foldl (fun c p => c.withPermission p true) c)

/-- The configuration that the options ask for. -/
def loadConfig (o : RunOptions) (files : Files) : Except String Config :=
  match o.config with
  | none => o.layered .empty
  | some name =>
    match Config.ofFile files name with
    | .ok base => o.layered base
    | .error fault => .error (configComplaint (fault.message name))

/-- The backend that the options ask for. -/
def loadBackend (o : RunOptions) (files : Files) : Except String Backend :=
  match o.fixtures with
  | none => .ok .empty
  | some name =>
    match files.text name with
    | .error failure => .error ("failed to read fixtures " ++ name ++ ": " ++ failure.message)
    | .ok text =>
      match Json.read .quick text with
      | .error fault => .error ("invalid JSON in " ++ name ++ ": " ++ fault.message)
      | .ok j =>
        match Backend.ofFixtures j with
        | .ok b => .ok b
        | .error fault => .error (configComplaint fault.message)

/-- The script that the options name. -/
def loadSource (o : RunOptions) (files : Files) : Except String Source :=
  match files.script o.script with
  | .ok s => .ok s
  | .error failure => .error ("failed to read " ++ o.script ++ ": " ++ failure.message)

end RunOptions

/-! ### Runs -/

def logsToJson (logs : List LogEntry) : Json :=
  .arr (logs.map fun e => .obj [("args", .arr e.args), ("level", .str e.level.methodName)])

def callsToJson (b : Backend) : Json :=
  .arr (b.calls.toList.map fun c => .obj
    [("args", .arr c.args), ("method", .str c.method), ("namespace", .str c.namespaceName)])

/-- The report on a script that came to its end. -/
def successReport (s : Success) (b : Backend) : Json :=
  .obj [("calls", callsToJson b), ("ok", .bool true),
    ("result", .obj [("logs", logsToJson s.logs), ("value", s.value)])]

/-- The report on a script that was stopped. -/
def faultReport (f : ScriptFault) (b : Backend) : Json :=
  .obj [("calls", callsToJson b),
    ("error", .obj
      [("filename", .ofOption f.filename), ("hasStack", .bool f.hasStack),
        ("kind", .str f.kind.name), ("logs", logsToJson f.logs), ("message", .str f.message),
        ("name", .ofOption f.name)]),
    ("ok", .bool false)]

/-- Runs a script in a session of its own. -/
def runOnce (c : Config) (backend : Backend) (source : Source) (options : EvalOptions) :
    Except SandboxError Success × Backend :=
  match openSession c with
  | .error e => (.error e, backend)
  | .ok s =>
    let o := s.eval backend source options
    (o.result, o.backend)

namespace Command

/-- The answer to a run whose files have been read. -/
def answerRun (o : RunOptions) (source : Source) (c : Config) (backend : Backend) : Answer :=
  let options : EvalOptions := { filename := some o.script, typed := o.typed }
  match runOnce c backend source options with
  | (.ok success, b) => .ofSuccess (successReport success b)
  | (.error (.script f), b) => { exitCode := 1, printed := .document (faultReport f b) }
  | (.error e, _) => .failure (e.message "")

/-- Reads what a run needs, the script first. -/
def gather (o : RunOptions) (files : Files) : Except String (Source × Config × Backend) := do
  let source ← o.loadSource files
  let c ← o.loadConfig files
  return (source, c, ← o.loadBackend files)

/-- The answer to a command. -/
def perform (files : Files) : Command → Answer
  | run o =>
    match gather o files with
    | .ok (source, c, backend) => answerRun o source c backend
    | .error message => .failure message
  | schema true => .ofSuccess (schemaDocument .builtin)
  | schema false => { exitCode := 0, printed := .text (schemaText .builtin) }

/-- The files that a command reads. -/
def fileNames : Command → List String
  | run o => o.script :: [o.config, o.fixtures].filterMap id
  | schema _ => []

end Command

/-- The answer to a command line. -/
def answer (files : Files) (arguments : List String) : Answer :=
  match Command.ofArguments arguments with
  | .ok c => c.perform files
  | .error stop => .ofStop stop

end CommandLine

end ScriptHost
