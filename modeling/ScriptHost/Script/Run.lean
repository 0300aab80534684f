import ScriptHost.Capability.Root
import ScriptHost.Console.Capture
import ScriptHost.Engine.Exotic
import ScriptHost.Script.Check

/-!
# Running programs

* `Host`: what a session gives to its scripts;
* `Expr.eval`, `Stmt.run`: expressions and statements, by recursion on their form;
* `callAt`: calls of functions, nested so deep at most;
* `Host.run`: a computation with calls from the outermost level;
* `Program.run`: a program.

Many expressions are calls of functions of the library under their global names, which scripts may
have changed.
-/

namespace ScriptHost

/-- What a session gives to its scripts. -/
structure Host where
  registry : Registry
  limits : Limits

namespace Host

/-- The budget of every conversion. -/
def budget (host : Host) : Budget := .ofLimits host.limits

/-- How deep calls may nest. -/
def callDepth (host : Host) : Nat := min (host.limits.maxStackBytes / 800) 1400

/-- The bytes of heap that a session takes before any script runs. -/
def baseBytes : Nat := 256 * 1024

/-- Whether a single piece of so many bytes does not fit the heap.  What scripts have made before is
not counted. -/
def exceeds (host : Host) (bytes : Nat) : Bool := host.limits.memoryBytes < bytes + baseBytes

end Host

/-- Throws the error of a heap that is full. -/
def outOfMemory {α : Type} : Script α := throwNew .internalError "out of memory"

/-! ### Variables -/

/-- The value of a variable: of the innermost lexical one of that name, or else a global one. -/
def readVariable (scope : Scope) (name : String) : Script Value := do
  match name with
  | "this" =>
    match scope.lookup name with
    | some cell => readCell cell
    | none => return .object globalRef
  | "null" => return .null
  | "true" => return .bool true
  | "false" => return .bool false
  | name =>
    match scope.lookup name with
    | some cell => readCell cell
    | none => readGlobal name

/-- Sets a variable. -/
def writeVariable (scope : Scope) (name : String) (v : Value) : Script Unit :=
  match scope.lookup name with
  | some cell => writeCell cell v
  | none => setProperty (.object globalRef) name v

/-- Makes a global variable, unless there is one of that name. -/
def declareGlobal (name : String) : Script Unit := .change (.declare name)

/-! ### Building values -/

/-- A value in a list, or in an object under `k`. -/
def wrapOnce (w : Wrapping) (v : Value) : Script Value :=
  match w with
  | .list => newList [v]
  | .object => newRecord [("k", v)]

def wrapTimes (w : Wrapping) : Nat → Value → Script Value
  | 0, v => return v
  | n + 1, v => do wrapTimes w n (← wrapOnce w v)

/-- A list of twice the same value, so many levels deep. -/
def shareTimes : Nat → Value → Script Value
  | 0, v => return v
  | n + 1, v => do shareTimes n (← newList [v, v])

/-- A list or an object that holds itself. -/
def makeCycle (w : Wrapping) : Script Value := do
  let (v, key) ← match w with
    | .list => do pure (← newList [], "0")
    | .object => do pure (.object (← newObject), "self")
  setProperty v (.named key) v
  return v

/-- The bytes of heap that an item of a list takes. -/
def itemBytes : Nat := 16

/-- The numbers from zero up to a bound, if they fit the heap. -/
def makeRange (host : Host) (count : Nat) : Script Value :=
  if host.exceeds (itemBytes * count) then outOfMemory
  else newList ((List.range count).map .ofNat)

/-- A text a number of times in a row, if it fits the heap. -/
def makeRepeated (host : Host) (t : Text) (count : Nat) : Script Value :=
  if host.exceeds (t.length * count) then outOfMemory else return .string (t.replicate count)

/-- A new plain object with the given properties; a repeated key overwrites. -/
def makeObject (fields : List (String × Value)) : Script Value := do
  let r ← newObject
  fields.forM fun (k, v) => Computation.change (.define r k (.plain v))
  return .object r

/-- What a function expression computes, whether it throws that, and whether it makes objects. -/
def Expr.closure? : Expr → Option (Expr × Bool × Bool)
  | function => some (.number (.ofInt 1), false, false)
  | returning value => some (value, false, true)
  | throwing value => some (value, true, true)
  | _ => none

/-! ### Expressions -/

/-- A function of the library, found as a property of a global variable; also that variable. -/
def libraryFunction (scope : Scope) (global name : String) : Script (Value × Value) := do
  let owner ← readVariable scope global
  return (owner, ← getNamed owner name)

mutual

/-- The value of an expression. -/
def Expr.eval (host : Host) (scope : Scope) : Expr → Script Value
  | .undefined | .hole => return .undefined
  | .null => return .null
  | .bool b => return .bool b
  | .number d => return .number d
  | .text t => return .string t
  | .bigint n => return .bigint n
  | .symbol d => newSymbol (some (.unicode d))
  | .function => newClosure (.number (.ofInt 1)) false false scope (.unicode "")
  | .returning e => newClosure e false true scope (.unicode "")
  | .throwing e => newClosure e true true scope (.unicode "")
  | .array items => do newArray (← evalItems host scope items).toArray
  | .object fields => do makeObject (← evalFields host scope fields)
  | .defineValue target key enumerable value => do
    let (owner, f) ← libraryFunction scope "Object" "defineProperty"
    let t ← target.eval host scope
    let v ← match value.closure? with
      | some (body, throws, constructs) =>
        newClosure body throws constructs scope (.unicode "value")
      | none => value.eval host scope
    let d ← newRecord [("value", v), ("enumerable", .bool enumerable)]
    call f owner [t, .ofString key, d]
  | .defineGetter target key enumerable throws value => do
    let (owner, f) ← libraryFunction scope "Object" "defineProperty"
    let t ← target.eval host scope
    let getter ← newClosure value throws false scope (.unicode "get")
    let d ← newRecord [("get", getter), ("enumerable", .bool enumerable)]
    call f owner [t, .ofString key, d]
  | .create prototype => do
    let (owner, f) ← libraryFunction scope "Object" "create"
    call f owner [← prototype.eval host scope]
  | .repeated t count => makeRepeated host t count
  | .range count => makeRange host count
  | .shared levels => do shareTimes levels (← newList [.ofNat 1])
  | .nest levels value wrapping => do wrapTimes wrapping levels (← value.eval host scope)
  | .cycle wrapping => makeCycle wrapping
  | .error constructor none => do constructNew (← readVariable scope constructor) []
  | .error constructor (some message) => do
    let c ← readVariable scope constructor
    constructNew c [← message.eval host scope]
  | .exotic kind => makeExotic kind
  | .variable name => readVariable scope name
  | .globalObject => return .object globalRef
  | .get target key => do getProperty (← target.eval host scope) key
  | .call namespaceName method args => do
    let root ← readVariable scope rootName
    let ns ← getProperty root namespaceName
    let f ← getProperty ns method
    let vs ← evalList host scope args
    call f ns vs
  | .invoke (.get target key) args => do
    let t ← target.eval host scope
    let f ← getProperty t key
    let vs ← evalList host scope args
    call f t vs
  | .invoke callee args => do
    let f ← callee.eval host scope
    let vs ← evalList host scope args
    call f .undefined vs
  | .typeof (.variable name) => do
    if (scope.lookup name).isSome || valueWords.contains name || (← hasProperty globalRef name) then
      return .ofString (← typeName (← readVariable scope name))
    else return .ofString "undefined"
  | .typeof value => do return .ofString (← typeName (← value.eval host scope))
  | .contains key target => do
    let r ← requireObject (← target.eval host scope) "invalid 'in' operand"
    return .bool (← hasProperty r key)
  | .keys target => do
    let (owner, f) ← libraryFunction scope "Object" "keys"
    call f owner [← target.eval host scope]
  | .names target => do
    let (owner, f) ← libraryFunction scope "Object" "getOwnPropertyNames"
    call f owner [← target.eval host scope]
  | .isFrozen target => do
    let (owner, f) ← libraryFunction scope "Object" "isFrozen"
    call f owner [← target.eval host scope]
  | .stringify value => do
    let (owner, f) ← libraryFunction scope "JSON" "stringify"
    call f owner [← value.eval host scope]
  | .concat items => do
    let list ← newArray (← evalItems host scope items).toArray
    callMethod list "join" [.ofString ""]
  | .add a b => do
    let v ← a.eval host scope
    let w ← b.eval host scope
    addValues v w
  | .reflectSet target key value => do
    let (owner, f) ← libraryFunction scope "Reflect" "set"
    let t ← target.eval host scope
    let v ← value.eval host scope
    call f owner [t, .ofString key, v]
  | .reflectDelete target key => do
    let (owner, f) ← libraryFunction scope "Reflect" "deleteProperty"
    let t ← target.eval host scope
    call f owner [t, .ofString key]
  | .instanceOf value constructor => do
    let v ← value.eval host scope
    return .bool (← isInstance v (← readVariable scope constructor))

/-- The values of expressions, one after the other. -/
def evalList (host : Host) (scope : Scope) : List Expr → Script (List Value)
  | [] => return []
  | e :: rest => do
    let v ← e.eval host scope
    return v :: (← evalList host scope rest)

/-- The items of an array, one after the other. -/
def evalItems (host : Host) (scope : Scope) : List Expr → Script (List (Option Value))
  | [] => return []
  | e :: rest => do
    let v ← match e with
      | .hole => pure none
      | e => some <$> e.eval host scope
    return v :: (← evalItems host scope rest)

/-- The fields of an object, one after the other.  A function gets the name of its field. -/
def evalFields (host : Host) (scope : Scope) :
    List (String × Expr) → Script (List (String × Value))
  | [] => return []
  | (k, e) :: rest => do
    let v ← match e.closure? with
      | some (body, throws, constructs) => newClosure body throws constructs scope (.unicode k)
      | none => e.eval host scope
    return (k, v) :: (← evalFields host scope rest)

end

/-- The value of an expression for a variable, whose name a function gets. -/
def Expr.evalFor (host : Host) (scope : Scope) (name : String) (e : Expr) : Script Value :=
  match e.closure? with
  | some (body, throws, constructs) => newClosure body throws constructs scope (.unicode name)
  | none => e.eval host scope

/-! ### Calls -/

/-- The scope of a call: its receiver and its arguments are variables, if the body asks for them. -/
def callScope (body : Expr) (scope : Scope) (this : Value) (args : List Value) :
    Script Scope := do
  let scope ← if body.mentions "this" then do pure (("this", ← newCell this) :: scope)
    else pure scope
  if body.mentions "arguments" then return ("arguments", ← newCell (← newArguments args)) :: scope
  else return scope

/-- What a function of a script gives. -/
def runClosure (host : Host) (body : Expr) (throws : Bool) (scope : Scope) (this : Value)
    (args : List Value) : Script Value := do
  let v ← body.eval host (← callScope body scope this args)
  if throws then raise v else return v

/-- What calling a function of a script does. -/
def callClosure (host : Host) (body : Expr) (throws : Bool) (scope : Scope) (how : Invocation)
    (args : List Value) : Script Value := do
  match how with
  | .plain this => runClosure host body throws scope this args
  | .making _ =>
    let r ← newPlainInstance how .object
    match ← runClosure host body throws scope (.object r) args with
    | .object made => return .object made
    | _ => return .object r

/-- What calling a function with a receiver of its own does; `self` is where it lies. -/
def callBound (target self : Ref) (this : Value) (how : Invocation) (args : List Value) :
    Script Value :=
  match how with
  | .plain _ => call (.object target) this args
  | .making r => construct (.object target) args (if r = self then target else r)

/-- What calling a class that scripts declare does; `self` is where it lies. -/
def callClass (derived : Bool) (self : Ref) (how : Invocation) (args : List Value) :
    Script Value := do
  match how with
  | .plain _ => throwType "class constructors must be invoked with 'new'"
  | .making newTarget =>
    if derived then construct (.ofRef? (← prototypeOf self)) args newTarget
    else return .object (← newPlainInstance how .object)

/-- The capability under the names of a namespace and a method. -/
def Host.row? (host : Host) (namespaceName method : String) : Option Method :=
  (host.registry.namespace? namespaceName).bind fun ns => ns.method? method

/-- What calling a function does; `self` is where it lies. -/
def callFunction (host : Host) (f : Callable) (self : Ref) (how : Invocation)
    (args : List Value) : Service Value :=
  match f with
  | .closure body throws _ scope => callClosure host body throws scope how args
  | .builtin b => b.run self how args
  | .bound target this given => callBound target self this how (given ++ args)
  | .declaredClass derived => callClass derived self how args
  | .capability namespaceName method =>
    match host.row? namespaceName method with
    | some m => dispatch host.budget namespaceName m args
    | none => throwType "not a function"
  | .console level => logCall host.budget level args

/-- What calling a proxy does. -/
def callProxy (target handler : Ref) (revoked : Bool) (how : Invocation)
    (args : List Value) : Script Value := do
  let t : Value := .object target
  match how with
  | .plain this =>
    let trap ← trap? (getOf handler "apply") revoked
    if !(← isCallable t) then throwType "not a function"
    match trap with
    | none => call t this args
    | some f => call f (.object handler) [t, this, ← newList args]
  | .making r =>
    let trap ← trap? (getOf handler "construct") revoked
    if !(← isConstructor t) then refuseConstruction
    match trap with
    | none => construct t args r
    | some f =>
      match ← call f (.object handler) [t, ← newList args, .object r] with
      | .object made => return .object made
      | _ => throwType "not an object"

/-- Calls a value. -/
def callValue (host : Host) (f : Value) (how : Invocation) (args : List Value) :
    Service Value := do
  match f with
  | .object r =>
    match (← readObject r).kind, how with
    | .proxy target handler revoked, how => callProxy target handler revoked how args
    | .function c, .plain _ => callFunction host c r how args
    | .function c, .making _ =>
      if ← isConstructor f then callFunction host c r how args
      else refuseConstruction
    | _, .plain _ => throwType "not a function"
    | _, .making _ => refuseConstruction
  | _ => throwType "not a function"

/-- Calls a value, where calls may nest so deep. -/
def callAt (host : Host) : Nat → Apply
  | 0, _, _, _ => (stackExceeded : Script Value).run .none
  | depth + 1, f, how, args => callValue host f how args (callAt host depth)

/-- The spots that such calls depend on. -/
def callTrail (host : Host) : Nat → CallTrail
  | 0, _, _, _ => (stackExceeded : Script Value).action.trail .none fun _ _ _ _ => []
  | depth + 1, f, how, args =>
    (callValue host f how args).trail (callAt host depth) (callTrail host depth)

/-- Runs a computation with calls from the outermost level. -/
def Host.run {α : Type} (host : Host) (s : Script α) : EStateM Halt Machine α :=
  s.run (callAt host host.callDepth)

/-- Runs a conversion with calls from the outermost level. -/
def Host.convert {α : Type} (host : Host) (c : Conversion α) :
    EStateM ConversionError Machine α :=
  c.run (callAt host host.callDepth)

/-! ### Statements -/

/-- Runs an action for so many numbers from one on. -/
def repeatFrom (action : Nat → Script Unit) : Nat → Nat → Script Unit
  | 0, _ => return
  | n + 1, i => do
    action i
    repeatFrom action n (i + 1)

/-- Calls a method of the console, whatever the variable of that name holds. -/
def logThrough (host : Host) (scope : Scope) (level : String) (args : List Expr) :
    Script Unit := do
  let console ← readVariable scope "console"
  let f ← getProperty console level
  let vs ← evalList host scope args
  let _ ← call f console vs

mutual

/-- Runs a statement. -/
def Stmt.run (host : Host) (scope : Scope) : Stmt → Script Unit
  | .declare name value => do writeVariable scope name (← value.evalFor host scope name)
  | .assign target key value => do
    let t ← target.eval host scope
    let v ← value.eval host scope
    setProperty t key v
  | .eval value => do
    let _ ← value.eval host scope
  | .log level args => logThrough host scope level args
  | .throw value => do raise (← value.eval host scope)
  | .tryCatch body name handler =>
    catchThrown (runAll host scope body) fun v => do
      let cell ← newCell v
      runAll host ((name, cell) :: scope) handler
  | .loop count name body =>
    repeatFrom (fun i => do
      let cell ← newCell (.ofNat i)
      runAll host ((name, cell) :: scope) body) count 0
  | .cond test yes no => do
    if (← test.eval host scope).truthy then runAll host scope yes
    else runAll host scope no
  | .spin => timeUp
  | .recurse => stackExceeded
  | .hog => outOfMemory
  | .malformed => return

/-- Runs statements one after the other. -/
def runAll (host : Host) (scope : Scope) : List Stmt → Script Unit
  | [] => return
  | s :: rest => do
    s.run host scope
    runAll host scope rest

end

/-! ### Programs -/

/-- Makes the global variables of the given names. -/
def declareGlobals : List String → Script Unit
  | [] => return
  | x :: rest => do
    declareGlobal x
    declareGlobals rest

/-- Runs a program; nothing runs if it has a fault.  Its variables exist from the start. -/
def Program.run (host : Host) (p : Program) : Script Value := do
  match p.fault? with
  | some fault => throwNew .syntaxError fault.message
  | none =>
    declareGlobals p.declared
    runAll host [] p.body
    match p.result with
    | some e => e.eval host []
    | none => return .undefined

/-- Runs a source.  Text other than a program is only ever blank or never run. -/
def Source.run (host : Host) : Source → Script Value
  | .program _ p => p.run host
  | .text s =>
    if s.all Char.isWhitespace then return .undefined
    else throwNew .syntaxError "unexpected token"

end ScriptHost
