import ScriptHost.Capability.Backend
import ScriptHost.Console.Buffer
import ScriptHost.Engine.Look

/-!
# The machine

The state that scripts run on, and how they stop.

* `Machine`: a heap, the backend, the console buffer and the clock of the current evaluation;
* `Halt`: a thrown value, or the end of the time;
* `Action`: what happens on a machine, where functions can be called, and what of the heap it
  depends on;
* `Composed`: whether an action is put together from the basic steps of scripts;
* `Computation`: an action that is; its effects stay if it fails;
* `Script`: a computation that fails by halting;
* `Service`: what the host does for a script;
* `call`, `construct`, `allocate`, `readObject`, `throwNew`: the basic steps.

No basic step of a script reaches the backend or the console buffer.
-/

namespace ScriptHost

/-- The state that a script runs on. -/
structure Machine where
  heap : Heap
  backend : Backend
  logs : LogBuffer
  /-- The nodes that conversions of the current evaluation have visited. -/
  clock : Nat := 0
  /-- Whether the current evaluation was found to be out of time. -/
  expired : Bool := false
  /-- What was thrown last without stopping anything. -/
  pending : Option Value := none

/-- Why a script stops before its end. -/
inductive Halt
  | thrown (v : Value)
  /-- The time is up; a script cannot catch this. -/
  | interrupted
  deriving DecidableEq, Repr

/-- The two ways to call a function: for what it gives, or for a new object of a class. -/
inductive Invocation
  | plain (this : Value)
  | making (newTarget : Ref)

/-- How a function is called: the function, the way, and its arguments. -/
abbrev Apply := Value → Invocation → List Value → EStateM Halt Machine Value

/-- The spots that calls of functions depend on. -/
abbrev CallTrail := Value → Invocation → List Value → Machine → List Spot

/-! ### Actions -/

/-- What happens on a machine, where functions can be called.  The trail is the row of the spots
that it depends on. -/
structure Action (ε α : Type) where
  run : Apply → EStateM ε Machine α
  trail : Apply → CallTrail → Machine → List Spot

namespace Action

variable {ε δ α β : Type}

instance : CoeFun (Action ε α) fun _ => Apply → EStateM ε Machine α := ⟨run⟩

/-- A step that depends on nothing of the heap. -/
@[inline]
def ofStep (step : EStateM ε Machine α) : Action ε α := ⟨fun _ => step, fun _ _ _ => []⟩

@[inline]
def give (a : α) : Action ε α := ofStep fun m => .ok a m

@[inline]
def fail (e : ε) : Action ε α := ofStep fun m => .error e m

/-- An action, and what follows if it succeeds or fails. -/
@[inline]
def sequel (x : Action ε α) (next : α → Action δ β) (otherwise : ε → Action δ β) : Action δ β where
  run apply m :=
    match x.run apply m with
    | .ok a m => (next a).run apply m
    | .error e m => (otherwise e).run apply m
  trail apply calls m :=
    x.trail apply calls m ++
      match x.run apply m with
      | .ok a m => (next a).trail apply calls m
      | .error e m => (otherwise e).trail apply calls m

@[always_inline]
instance : Monad (Action ε) where
  pure := give
  bind x next := x.sequel next fail

@[always_inline]
instance : MonadExceptOf ε (Action ε) where
  throw := fail
  tryCatch x handler := x.sequel give handler

def call (f : Value) (how : Invocation) (args : List Value) : Action Halt Value where
  run apply := apply f how args
  trail _ calls := calls f how args

/-- A look at the heap. -/
def look (q : Look α) : Action ε α where
  run _ m := .ok (q.ask m.heap) m
  trail _ _ m := q.spots m.heap

def change (c : Change) : Action ε Unit where
  run _ m := .ok () { m with heap := c.apply m.heap }
  trail _ _ m := c.spots m.heap

/-- Lets the clock run on, and tells whether it is late then. -/
def tick (late : Nat → Bool) : Action ε Bool := ofStep fun m =>
  let clock := m.clock + 1
  .ok (late clock) { m with clock, expired := m.expired || late clock }

/-- Marks that the time is up. -/
def expire : Action ε Unit := ofStep fun m => .ok () { m with expired := true }

/-- Keeps in mind what was thrown. -/
def remember (v : Value) : Action ε Unit := ofStep fun m => .ok () { m with pending := some v }

/-! The steps that only the host takes. -/

/-- Lets the backend act. -/
def act (a : EStateM δ Backend α) : Action ε (Except δ α) := ofStep fun m =>
  match a m.backend with
  | .ok result b => .ok (.ok result) { m with backend := b }
  | .error e b => .ok (.error e) { m with backend := b }

/-- The console buffer. -/
def readLogs : Action ε LogBuffer := ofStep fun m => .ok m.logs m

def modifyLogs (f : LogBuffer → LogBuffer) : Action ε Unit :=
  ofStep fun m => .ok () { m with logs := f m.logs }

end Action

/-- The actions that are put together from the basic steps of scripts. -/
inductive Composed : {ε α : Type} → Action ε α → Prop
  | give {ε α : Type} (a : α) : Composed (Action.give (ε := ε) a)
  | fail {ε α : Type} (e : ε) : Composed (Action.fail (α := α) e)
  | sequel {ε δ α β : Type} {x : Action ε α} {next : α → Action δ β} {otherwise : ε → Action δ β}
    (hx : Composed x) (hnext : ∀ a, Composed (next a))
    (hotherwise : ∀ e, Composed (otherwise e)) : Composed (x.sequel next otherwise)
  | call (f : Value) (how : Invocation) (args : List Value) : Composed (Action.call f how args)
  | look {ε α : Type} (q : Look α) : Composed (Action.look (ε := ε) q)
  | change {ε : Type} (c : Change) : Composed (Action.change (ε := ε) c)
  | tick {ε : Type} (late : Nat → Bool) : Composed (Action.tick (ε := ε) late)
  | expire {ε : Type} : Composed (Action.expire (ε := ε))
  | remember {ε : Type} (v : Value) : Composed (Action.remember (ε := ε) v)

/-! ### Computations -/

/-- An action that is put together from the basic steps of scripts. -/
structure Computation (ε α : Type) where
  action : Action ε α
  composed : Composed action

namespace Computation

variable {ε δ α β : Type}

/-- What a computation does, where functions are called in the given way. -/
@[inline]
def run (x : Computation ε α) : Apply → EStateM ε Machine α := x.action.run

@[inline]
def give (a : α) : Computation ε α := ⟨.give a, .give a⟩

@[inline]
def fail (e : ε) : Computation ε α := ⟨.fail e, .fail e⟩

/-- A computation, and what follows if it succeeds or fails. -/
@[inline]
def sequel (x : Computation ε α) (next : α → Computation δ β)
    (otherwise : ε → Computation δ β) : Computation δ β :=
  ⟨x.action.sequel (fun a => (next a).action) fun e => (otherwise e).action,
    .sequel x.composed (fun a => (next a).composed) fun e => (otherwise e).composed⟩

@[always_inline]
instance : Monad (Computation ε) where
  pure := give
  bind x next := x.sequel next fail

@[always_inline]
instance : MonadExceptOf ε (Computation ε) where
  throw := fail
  tryCatch x handler := x.sequel give handler

/-- A look at the heap. -/
def look (q : Look α) : Computation ε α := ⟨.look q, .look q⟩

def change (c : Change) : Computation ε Unit := ⟨.change c, .change c⟩

/-- Lets the clock run on, and tells whether it is late then. -/
def tick (late : Nat → Bool) : Computation ε Bool := ⟨.tick late, .tick late⟩

/-- Marks that the time is up. -/
def expire : Computation ε Unit := ⟨.expire, .expire⟩

/-- Keeps in mind what was thrown. -/
def remember (v : Value) : Computation ε Unit := ⟨.remember v, .remember v⟩

end Computation

/-- A computation that fails by halting. -/
abbrev Script (α : Type) := Computation Halt α

/-- What the host does for a script; this alone reaches the backend and the console buffer. -/
abbrev Service (α : Type) := Action Halt α

instance : MonadLift (Computation Halt) (Action Halt) := ⟨Computation.action⟩

/-! ### Objects -/

/-- What the object at a place is besides its properties. -/
def readObject (r : Ref) : Script Object := .look (.frame r)

/-- The property that the object at a place has itself under a key. -/
def readOwn (r : Ref) (key : Key) : Script (Option Property) := .look (.own r key)

/-- A new object. -/
def allocate (o : Object) (scripted : o.isScripted = true := by intros; rfl) : Script Ref := do
  let r ← Computation.look .size
  Computation.change (.allocate o scripted)
  return r

/-- A new lexical variable. -/
def newCell (v : Value) : Script Nat := do
  let i ← Computation.look .cellCount
  Computation.change (.newCell v)
  return i

/-- The value of a lexical variable. -/
def readCell (i : Nat) : Script Value := .look (.cell i)

/-- Sets a lexical variable. -/
def writeCell (i : Nat) (v : Value) : Script Unit := .change (.writeCell i v)

/-- A new symbol. -/
def newSymbol (description : Option Text) : Script Value := do
  let n ← Computation.look .symbolCount
  Computation.change .newSymbol
  return .symbol (.fresh n description)

/-- Makes an object be of another kind, if it can. -/
def become (r : Ref) (kind : Kind) : Script Unit := .change (.become r kind)

/-- A new object of a family. -/
def newOf (f : Family) (kind : Kind) (scripted : kind.isScripted = true := by intros; rfl) :
    Script Value := do
  return .object (← allocate { kind, prototype := some f.prototype } scripted)

/-- A new array with the given items; a hole is `none`. -/
def newArray (items : Array (Option Value)) : Script Value := do
  let r ← allocate
    { kind := .array items.size false, prototype := some Family.array.prototype
      elements := items.map fun v => v.map Property.plain }
  return .object r

/-- A new array without holes. -/
def newList (items : List Value) : Script Value := newArray (items.map some).toArray

/-- A new plain object that inherits from another one, if there is one. -/
def newPlain (parent : Option Ref) : Script Ref := allocate { kind := .plain, prototype := parent }

/-- A new object without properties. -/
def newObject : Script Ref := newPlain (some Family.object.prototype)

/-- A new object with properties like those that assignments make. -/
def newRecord (fields : List (String × Value)) : Script Value := do
  return .object (← allocate (.withProperties (some Family.object.prototype)
    (fields.map fun (k, v) => (k, .plain v))))

/-- A new function. -/
def newFunction (f : Callable) (name : Text) (parameters : Nat)
    (scripted : f.isScripted = true := by intros; rfl) : Script Value := do
  return .object (← allocate (functionObject f name parameters) scripted)

/-! ### Errors -/

/-- The object of an error: a message, if there is one, and a trace, neither of which shows. -/
def errorObject (c : ErrorClass) (message : Option Text) : Object where
  kind := .error
  prototype := some (Family.error c).prototype
  properties := match message with
    | some t => [("message", .hidden (.string t)), stackProperty]
    | none => [stackProperty]

/-- Throws a value.  An error that has lost its trace gets a new one. -/
def raise {α : Type} (v : Value) : Script α := do
  match v with
  | .object r =>
    Computation.change (.trace r)
    throw (.thrown v)
  | v => throw (.thrown v)

/-- The bytes of a message that the engine writes itself. -/
def maxEngineMessage : Nat := 255

/-- Throws a new error object. -/
def throwNew {α : Type} (c : ErrorClass) (message : String) : Script α := do
  let r ← allocate (errorObject c (some (.unicode (clip maxEngineMessage message))))
  throw (.thrown (.object r))

/-- Throws the error of a type that does not fit. -/
def throwType {α : Type} (message : String) : Script α := throwNew .typeError message

/-- Throws the error of a stack that is full. -/
def stackExceeded {α : Type} : Script α :=
  throwNew .rangeError "Maximum call stack size exceeded"

/-- Stops at the end of the time. -/
def timeUp {α : Type} : Script α := do
  Computation.expire
  throw .interrupted

/-- Runs a computation, and hands what it throws to a handler.  The end of the time is not
caught. -/
def catchThrown {α : Type} (body : Script α) (handler : Value → Script α) : Script α :=
  body.sequel .give fun
    | .thrown v => handler v
    | .interrupted => .fail .interrupted

/-- Runs a computation for a value that need not be there.  What it throws stops nothing. -/
def attempt {α : Type} (body : Script (Option α)) : Script (Option α) :=
  catchThrown body fun v => do
    Computation.remember v
    return none

/-! ### Calls -/

/-- Calls a function. -/
def invoke (f : Value) (how : Invocation) (args : List Value) : Script Value :=
  ⟨.call f how args, .call f how args⟩

/-- Calls a function with a receiver. -/
def call (f this : Value) (args : List Value) : Script Value := invoke f (.plain this) args

/-- Calls a function for a new object, whose class is that of `newTarget`. -/
def construct (f : Value) (args : List Value) (newTarget : Ref) : Script Value :=
  invoke f (.making newTarget) args

/-- Calls a function for a new object. -/
def constructNew (f : Value) (args : List Value) : Script Value :=
  construct f args (f.ref?.getD globalRef)

end ScriptHost
