import ScriptHost.Permission

/-!
# Settings of the command line

* `Topic`: the program as a whole and its commands;
* `Setting`: what a word of the command line can set, with its spellings;
* `UsageFault`, `UsageFault.message`: why a command line makes no sense;
* `Count.read`: how a count is written.
-/

namespace ScriptHost

namespace CommandLine

/-- The name by which the program is called. -/
def programName : String := "bimscript"

/-- The program as a whole and its commands. -/
inductive Topic
  | program
  | run
  | schema
  | help
  deriving DecidableEq, Repr

/-- The commands by name. -/
def commands : List (String × Topic) := [("run", .run), ("schema", .schema), ("help", .help)]

/-- What a word of the command line can set. -/
inductive Setting
  | file
  | config
  | fixtures
  | timeout
  | deny
  | allow
  | altDialect
  | json
  | verbose
  | help
  deriving DecidableEq, Repr

namespace Setting

/-- The long spelling, without its dashes. -/
def longName? : Setting → Option String
  | file => none
  | config => some "config"
  | fixtures => some "fixtures"
  | timeout => some "timeout-ms"
  | deny => some "deny"
  | allow => some "allow"
  | altDialect => some "alt-dialect"
  | json => some "json"
  | verbose => some "verbose"
  | help => some "help"

/-- The short spelling, without its dash. -/
def letter? : Setting → Option Char
  | config => some 'c'
  | verbose => some 'v'
  | help => some 'h'
  | _ => none

/-- What stands for the value where the setting is described. -/
def placeholder? : Setting → Option String
  | file => some "FILE"
  | config => some "CONFIG"
  | fixtures => some "FIXTURES"
  | timeout => some "TIMEOUT_MS"
  | deny | allow => some "NS"
  | altDialect => some "ALT_DIALECT"
  | json | verbose | help => none

def takesValue (s : Setting) : Bool := s.placeholder?.isSome

/-- Whether the setting may be given more than once. -/
def isRepeatable (s : Setting) : Bool := s = deny || s = allow

/-- The setting as complaints name it. -/
def label (s : Setting) : String :=
  let words := [s.longName?.map fun n => "--" ++ n, s.placeholder?.map fun p => "<" ++ p ++ ">"]
  String.intercalate " " (words.filterMap id)

end Setting

/-- The settings that a command knows by name. -/
def Topic.settings : Topic → List Setting
  | program => [.verbose, .help]
  | run => [.config, .fixtures, .timeout, .deny, .allow, .altDialect, .verbose, .help]
  | schema => [.json, .verbose, .help]
  | help => []

/-! ### Complaints -/

/-- Why a command line makes no sense. -/
inductive UsageFault
  | noCommand
  | unknownCommand (name : String)
  | unexpectedArgument (word : String)
  | unexpectedValue (value : String) (setting : Setting)
  | missingValue (setting : Setting)
  | missingSetting (setting : Setting)
  | repeated (setting : Setting)
  /-- A value that does not fit, and why, if there is more to say than that. -/
  | badValue (value : String) (setting : Setting) (reason : Option String)
  deriving DecidableEq, Repr

def UsageFault.message : UsageFault → String
  | noCommand => "'" ++ programName ++ "' requires a subcommand but one was not provided"
  | unknownCommand name => "unrecognized subcommand '" ++ name ++ "'"
  | unexpectedArgument word => "unexpected argument '" ++ word ++ "' found"
  | unexpectedValue value s =>
    "unexpected value '" ++ value ++ "' for '" ++ s.label ++ "' found; no more were expected"
  | missingValue s => "a value is required for '" ++ s.label ++ "' but none was supplied"
  | missingSetting s => "the following required arguments were not provided:\n  " ++ s.label
  | repeated s => "the argument '" ++ s.label ++ "' cannot be used multiple times"
  | badValue value s reason =>
    "invalid value '" ++ value ++ "' for '" ++ s.label ++ "'"
      ++ (reason.map fun r => ": " ++ r).getD ""

/-! ### Counts -/

/-- Why a text is no count. -/
inductive CountFault
  | empty
  | badDigit
  | tooLarge
  deriving DecidableEq, Repr

def CountFault.message : CountFault → String
  | empty => "cannot parse integer from empty string"
  | badDigit => "invalid digit found in string"
  | tooLarge => "number too large to fit in target type"

namespace Count

/-- Reads on, where `n` is what the digits so far spell. -/
def readFrom (n : Nat) : List Char → Except CountFault Nat
  | [] => .ok n
  | c :: rest =>
    if !c.isDigit then .error .badDigit
    else
      let n := 10 * n + (c.toNat - '0'.toNat)
      if n < twoTo 64 then readFrom n rest else .error .tooLarge

/-- The count that digits spell, if it fits 64 bits.  A plus sign may stand before them. -/
def read (s : String) : Except CountFault Nat :=
  match s.toList with
  | [] => .error .empty
  | ['+'] => .error .badDigit
  | '+' :: rest => readFrom 0 rest
  | cs => readFrom 0 cs

end Count

end CommandLine

end ScriptHost
