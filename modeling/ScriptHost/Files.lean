import ScriptHost.Config
import ScriptHost.Script.Notation

/-!
# Files

* `ReadFailure`: why a file cannot be read;
* `Files`: what is in the files that there are;
* `Config.ofFile`, `ConfigFileFault`: configurations in files.
-/

namespace ScriptHost

/-- Why a file cannot be read. -/
inductive ReadFailure
  | system (reason : String) (code : Nat)
  | notUnicode
  deriving DecidableEq, Repr

namespace ReadFailure

def absent : ReadFailure := system "No such file or directory" 2

def message : ReadFailure → String
  | system reason code => reason ++ " (os error " ++ toString code ++ ")"
  | notUnicode => "stream did not contain valid UTF-8"

end ReadFailure

/-- What is in the files that there are: any as text, and scripts as what they stand for. -/
structure Files where
  text : String → Except ReadFailure String
  script : String → Except ReadFailure Source

/-- The files of the given texts, of which those that are programs are scripts. -/
def Files.ofTexts (text : String → Except ReadFailure String) : Files where
  text := text
  script name := (text name).map Source.ofText

/-! ### Configurations -/

/-- Why a file holds no configuration. -/
inductive ConfigFileFault
  | unreadable (failure : ReadFailure)
  | badText (text : String) (fault : ConfigTextFault)
  deriving DecidableEq, Repr

/-- The complaint about the file of the given name. -/
def ConfigFileFault.message (name : String) : ConfigFileFault → String
  | unreadable failure => "failed to read " ++ name ++ ": " ++ failure.message
  | badText text fault => name ++ ": " ++ fault.message text

/-- The configuration in a file. -/
def Config.ofFile (files : Files) (name : String) : Except ConfigFileFault Config :=
  match files.text name with
  | .error failure => .error (.unreadable failure)
  | .ok text =>
    match Config.ofToml text with
    | .ok c => .ok c
    | .error fault => .error (.badText text fault)

end ScriptHost
