import ScriptHost.Capability.Registry
import ScriptHost.Log

/-!
# Faults

* `FaultKind`: what stopped a script; `FaultKind.isCeiling`, `FaultKind.poisons`;
* `ScriptFault`: a stopped evaluation, with the console output up to there;
* `SandboxError`: why an operation of a sandbox failed; `SandboxError.isMisuse`.
-/

namespace ScriptHost

/-- What stopped a script. -/
inductive FaultKind
  /-- The script threw something, or a capability did on its behalf. -/
  | thrown
  /-- The time was up. -/
  | timeout
  /-- The heap was full. -/
  | outOfMemory
  /-- The stack was full. -/
  | stackOverflow
  /-- The source could not be turned into plain source. -/
  | transpile
  /-- The value of the script could not be handed to the host. -/
  | marshal
  deriving DecidableEq, Repr

namespace FaultKind

def all : List FaultKind := [thrown, timeout, outOfMemory, stackOverflow, transpile, marshal]

def name : FaultKind → String
  | thrown => "thrown"
  | timeout => "timeout"
  | outOfMemory => "out-of-memory"
  | stackOverflow => "stack-overflow"
  | transpile => "transpile"
  | marshal => "marshal"

/-- The name of the kind where a session describes itself. -/
def title : FaultKind → String
  | thrown => "Thrown"
  | timeout => "Timeout"
  | outOfMemory => "OutOfMemory"
  | stackOverflow => "StackOverflow"
  | transpile => "Transpile"
  | marshal => "Marshal"

/-- Whether a resource limit stopped the script. -/
def isCeiling (k : FaultKind) : Bool := k = timeout || k = outOfMemory || k = stackOverflow

/-- Whether the session cannot go on. -/
def poisons (k : FaultKind) : Bool := k = outOfMemory

def decoder : Decoder FaultKind := Decoder.variant (all.map fun k => (k.name, k))

end FaultKind

/-- A stopped evaluation. -/
structure ScriptFault where
  kind : FaultKind
  message : String
  /-- The name of the error object that was thrown, if one was and it has a name. -/
  name : Option String := none
  /-- Whether a stack was recorded, as it is for error objects. -/
  hasStack : Bool := false
  filename : Option String := none
  logs : List LogEntry := []
  deriving Repr

/-- The fault on one line. -/
def ScriptFault.display (f : ScriptFault) : String := "script " ++ f.kind.name ++ ": " ++ f.message

/-- Why an operation of a sandbox failed. -/
inductive SandboxError
  | initializationFailed (reason : String)
  | moduleUnavailable (fault : SchemaFault)
  | notInitialized
  | disposed
  | poisoned (kind : FaultKind)
  | invalidConfig (reason : String)
  | script (fault : ScriptFault)
  deriving Repr

namespace SandboxError

/-- The words for an error of the session that is shown as `session`. -/
def message (session : String) : SandboxError → String
  | initializationFailed reason => "sandbox initialization failed: " ++ reason
  | moduleUnavailable fault => "script module unavailable: " ++ fault.message
  | notInitialized => "sandbox " ++ session ++ " used before init()"
  | disposed => "sandbox " ++ session ++ " used after dispose()"
  | poisoned kind =>
    "sandbox " ++ session ++ " is unusable after a " ++ kind.name
      ++ " fault; call init() to rebuild it"
  | invalidConfig reason => "invalid sandbox configuration: " ++ reason
  | script fault => fault.display

/-- The fault of the script, if it was the script that failed. -/
def scriptFault? : SandboxError → Option ScriptFault
  | script fault => some fault
  | _ => none

/-- Whether the sandbox was used in a state that does not allow it. -/
def isMisuse : SandboxError → Bool
  | notInitialized | disposed | poisoned _ => true
  | _ => false

end SandboxError

end ScriptHost
