import ScriptHost.Capability.Builtin
import ScriptHost.Config
import ScriptHost.Dialect.Typed
import ScriptHost.Fault
import ScriptHost.Script.Run
import ScriptHost.SessionId

/-!
# Sandboxes

A sandbox runs scripts, one after the other, on a machine of its own.

* `Transpiler`: what takes the types out of a source;
* `Sandbox`, `SessionState`: a sandbox and the state of its session;
* `Sandbox.init`, `Sandbox.eval`, `Sandbox.dispose`: the operations;
* `Outcome`: what an evaluation leaves behind;
* `classify`: the kind of fault that an uncaught error is.
-/

namespace ScriptHost

/-- What takes the types out of a source: from the source and the name of its file to plain
source, or to a complaint. -/
abbrev Transpiler := Source → String → Except String Source

/-- What a session has while it can run scripts. -/
structure Vm where
  heap : Heap
  /-- The namespaces that its scripts find. -/
  namespaces : List String

/-- The state of a session. -/
inductive SessionState
  | uninitialized
  | ready (vm : Vm)
  /-- A fault has left the machine in a state that nothing should run on. -/
  | poisoned (vm : Vm) (kind : FaultKind)
  | disposed

structure Sandbox where
  id : SessionId := .nil
  permissions : Permissions
  limits : Limits
  registry : Registry := .builtin
  transpiler : Option Transpiler := none
  logs : LogBuffer := {}
  state : SessionState := .uninitialized

namespace Sandbox

/-! ### Views -/

def ofDefaults : Sandbox := { permissions := .defaults, limits := .default }

/-- The sandbox that a configuration asks for. -/
def ofConfig (c : Config) : Except SandboxError Sandbox :=
  match c.resolve with
  | .ok (permissions, limits) => .ok { permissions, limits }
  | .error fault => .error (.invalidConfig fault.message)

/-- The sandbox with a table of capabilities of its own. -/
def withRegistry (s : Sandbox) (r : Registry) : Except SchemaFault Sandbox :=
  match r.fault? with
  | some fault => .error fault
  | none => .ok { s with registry := r }

def host (s : Sandbox) : Host := ⟨s.registry, s.limits⟩

def isReady (s : Sandbox) : Bool :=
  match s.state with
  | .ready _ => true
  | _ => false

def isDisposed (s : Sandbox) : Bool :=
  match s.state with
  | .disposed => true
  | _ => false

def poisonedBy? (s : Sandbox) : Option FaultKind :=
  match s.state with
  | .poisoned _ kind => some kind
  | _ => none

/-- The namespaces that scripts find. -/
def namespaces (s : Sandbox) : List String :=
  match s.state with
  | .ready vm | .poisoned vm _ => vm.namespaces
  | _ => []

/-- The ceiling of the heap, while there is one. -/
def heapLimit? (s : Sandbox) : Option Nat :=
  match s.state with
  | .ready _ | .poisoned .. => some s.limits.memoryBytes
  | _ => none

/-- How a sandbox shows itself, with its identifier shown as `session`. -/
def describe (s : Sandbox) (session : String) : String :=
  let granted := String.intercalate ", " (s.permissions.granted.map Permission.title)
  let flag (b : Bool) : String := if b then "true" else "false"
  let poisoned := match s.poisonedBy? with
    | some kind => "Some(" ++ kind.title ++ ")"
    | none => "None"
  "Sandbox \x7b id: SessionId(" ++ session ++ "), permissions: Permissions \x7b granted: \x7b"
    ++ granted ++ "\x7d \x7d, limits: ResourceLimits \x7b memory_bytes: "
    ++ toString s.limits.memoryBytes ++ ", max_stack_bytes: " ++ toString s.limits.maxStackBytes
    ++ ", timeout_ms: " ++ toString s.limits.timeoutMs ++ " \x7d, ready: " ++ flag s.isReady
    ++ ", poisoned_by: " ++ poisoned ++ ", disposed: " ++ flag s.isDisposed ++ " \x7d"

/-! ### Life cycle -/

/-- The bytes of heap that the function of a capability takes. -/
def functionBytes : Nat := 256

/-- A machine for scripts that find the granted namespaces, if the heap holds it.  Their functions are
counted here and not afterwards. -/
def makeVm (s : Sandbox) : Except SandboxError Vm :=
  let namespaces := s.registry.installed s.permissions
  if s.host.exceeds (functionBytes * namespaces.methodCount) then
    .error (.initializationFailed "null")
  else .ok ⟨.install s.registry s.permissions, namespaces.map Namespace.name⟩

/-- Gives the sandbox a new machine, if its table keeps the rules. -/
def start (s : Sandbox) : Except SandboxError Unit × Sandbox :=
  match s.registry.fault? with
  | some fault => (.error (.moduleUnavailable fault), s)
  | none =>
    match s.makeVm with
    | .error e => (.error e, s)
    | .ok vm => (.ok (), { s with state := .ready vm })

/-- Makes the sandbox ready.  Nothing changes if it is; a poisoned one gets a new machine. -/
def init (s : Sandbox) : Except SandboxError Unit × Sandbox :=
  match s.state with
  | .ready _ => (.ok (), s)
  | .disposed => (.error .disposed, s)
  | .uninitialized | .poisoned .. => s.start

/-- Lets go of everything, for good. -/
def dispose (s : Sandbox) : Sandbox := { s with state := .disposed }

end Sandbox

/-! ### Faults of scripts -/

/-- Whether a text occurs in another. -/
def occursWithin (part whole : List Char) : Bool :=
  match whole with
  | [] => part.isEmpty
  | _ :: rest => part.isPrefixOf whole || occursWithin part rest

/-- The kind of fault that an uncaught error is.  Only the names that the engine itself uses, or
no name, make it a ceiling. -/
def classify (name : Option String) (message : String) : FaultKind :=
  if name = none || name = some "InternalError" || name = some "RangeError" then
    if message = "out of memory" then .outOfMemory
    else if occursWithin "stack overflow".toList message.toList
        || occursWithin "Maximum call stack size exceeded".toList message.toList then .stackOverflow
    else .thrown
  else .thrown

/-- The bytes of output that a thrown value may become. -/
def maxThrownBytes : Nat := 64 * 1024

/-- A property of an error that is a text. -/
def textProperty (v : Value) (key : String) : Script (Option String) :=
  attempt do
    match ← getProperty v key with
    | .string t => return t.toUnicode.toOption
    | _ => return none

/-- The fault of an uncaught error object. -/
def errorFault (v : Value) : Script ScriptFault := do
  let message := (← readableText v "message").getD ""
  let stack ← readableText v "stack"
  let name ← textProperty v "name"
  return { kind := classify name message, message, name, hasStack := stack.isSome }

/-- The fault of an uncaught value that is no error object: its document is the message. -/
def valueFault (budget : Budget) (v : Value) : Script ScriptFault :=
  (dump (budget.capped maxThrownBytes) v).sequel
    (fun j => .give { kind := .thrown, message := j.plainText })
    fun e => .give { kind := .thrown, message := e.message }

/-- The fault of an uncaught value. -/
def thrownFault (budget : Budget) (v : Value) : Script ScriptFault := do
  match v with
  | .object r =>
    if (← readObject r).isError then errorFault v else valueFault budget v
  | v => valueFault budget v

/-- The fault of a script that the end of its time has stopped. -/
def interruptedFault : ScriptFault where
  kind := .thrown
  message := "interrupted"
  name := some "InternalError"
  hasStack := true

/-! ### Evaluation -/

/-- How a source is to be run. -/
structure EvalOptions where
  filename : Option String := none
  /-- Whether the source is typed, if it is known. -/
  typed : Option Bool := none

def EvalOptions.filenameOrDefault (o : EvalOptions) : String := o.filename.getD "script.js"

/-- What an evaluation gives. -/
structure Success where
  value : Json
  logs : List LogEntry

/-- What an evaluation leaves behind. -/
structure Outcome where
  result : Except SandboxError Success
  sandbox : Sandbox
  backend : Backend
  /-- Whether the transpiler was asked. -/
  transpiled : Bool := false

/-- The source that is run, or why there is none, and whether the transpiler was asked. -/
def prepareSource (transpiler : Option Transpiler) (source : Source) (options : EvalOptions) :
    Except String Source × Bool :=
  let typed := options.typed.getD (looksTyped source.visibleText)
  match typed, transpiler with
  | false, _ => (.ok source, false)
  | true, some t => (t source options.filenameOrDefault, true)
  | true, none =>
    if options.typed = some true then
      (.error "typed dialect requested but no transpiler is installed", false)
    else (.ok source, false)

/-- Turns the value of a source into a document, or what stops the source into a fault. -/
def Source.evaluate (host : Host) (source : Source) : Computation Empty (Except ScriptFault Json) :=
  match source.nulIndex? with
  | some i =>
    .give (.error
      { kind := .thrown
        message := "String contained internal null bytes: "
          ++ "nul byte found in provided data at position: " ++ toString i })
  | none =>
    (source.run host).sequel
      (fun v => (dump host.budget v).sequel (fun j => .give (.ok j))
        fun e => .give (.error { kind := .marshal, message := e.message }))
      fun
        | .interrupted => .give (.error interruptedFault)
        | .thrown v => (thrownFault host.budget v).sequel (fun fault => .give (.error fault))
            fun _ => .give (.error interruptedFault)

/-- Evaluates a source, where functions are called in the given way. -/
def runSourceBy (apply : Apply) (host : Host) (source : Source) (m : Machine) :
    Except ScriptFault Json × Machine :=
  match (source.evaluate host).run apply m with
  | .ok result m => (result, m)
  | .error e _ => nomatch e

/-- Runs a source with calls from the outermost level. -/
def runSource (host : Host) (source : Source) (m : Machine) : Except ScriptFault Json × Machine :=
  runSourceBy (callAt host host.callDepth) host source m

/-- The result of an evaluation, once it is known whether it ran out of time. -/
def settle (result : Except ScriptFault Json) (late : Bool) : Except ScriptFault Json :=
  match result, late with
  | .ok j, false => .ok j
  | .ok _, true => .error { kind := .timeout, message := "script exceeded its time limit" }
  | .error fault, false => .error fault
  | .error fault, true => .error { fault with kind := .timeout }

namespace Sandbox

/-- What an evaluation leaves behind that ends so on a machine. -/
def conclude (s : Sandbox) (vm : Vm) (filename : String) (result : Except ScriptFault Json)
    (m : Machine) : Outcome :=
  let (logs, buffer) := m.logs.take
  let vm := { vm with heap := m.heap }
  match result with
  | .ok value =>
    { result := .ok ⟨value, logs⟩, sandbox := { s with state := .ready vm, logs := buffer }
      backend := m.backend }
  | .error fault =>
    let state := if fault.kind.poisons then .poisoned vm fault.kind else .ready vm
    { result := .error (.script { fault with filename := some filename, logs })
      sandbox := { s with state, logs := buffer }, backend := m.backend }

/-- The machine that an evaluation begins on. -/
def machine (s : Sandbox) (vm : Vm) (backend : Backend) : Machine :=
  { heap := vm.heap, backend, logs := s.logs.cleared }

/-- Runs a prepared source on a machine. -/
def evalReady (s : Sandbox) (vm : Vm) (backend : Backend) (source : Source) (filename : String) :
    Outcome :=
  let (result, m) := runSource s.host source (s.machine vm backend)
  s.conclude vm filename (settle result m.expired) m

/-- Runs a source. -/
def eval (s : Sandbox) (backend : Backend) (source : Source) (options : EvalOptions) : Outcome :=
  match s.state with
  | .uninitialized => { result := .error .notInitialized, sandbox := s, backend }
  | .disposed => { result := .error .disposed, sandbox := s, backend }
  | .poisoned _ kind => { result := .error (.poisoned kind), sandbox := s, backend }
  | .ready vm =>
    let filename := options.filenameOrDefault
    match prepareSource s.transpiler source options with
    | (.error message, transpiled) =>
      let fault : ScriptFault := { kind := .transpile, message, filename := some filename }
      { result := .error (.script fault), sandbox := { s with logs := s.logs.cleared }
        backend, transpiled }
    | (.ok source, transpiled) => { s.evalReady vm backend source filename with transpiled }

end Sandbox

/-! ### Sessions that end by themselves -/

/-- The sandbox of a new session, ready to run scripts. -/
def openSession (c : Config) : Except SandboxError Sandbox :=
  match Sandbox.ofConfig c with
  | .error e => .error e
  | .ok s =>
    match s.init with
    | (.error e, _) => .error e
    | (.ok (), s) => .ok s

/-- The evaluations of a session, up to the first that fails. -/
def evalAll (s : Sandbox) (backend : Backend) :
    List (Source × EvalOptions) → List Json → Except SandboxError Unit × List Json × Backend
  | [], values => (.ok (), values, backend)
  | (source, options) :: rest, values =>
    let o := s.eval backend source options
    match o.result with
    | .ok success => evalAll o.sandbox o.backend rest (values ++ [success.value])
    | .error e => (.error e, values, o.backend)

/-- Runs sources in a session of their own, which ends with them.  Gives the values up to the
first failure. -/
def runScoped (c : Config) (backend : Backend) (sources : List (Source × EvalOptions)) :
    Except SandboxError Unit × List Json × Backend :=
  match openSession c with
  | .error e => (.error e, [], backend)
  | .ok s => evalAll s backend sources []

end ScriptHost
