import ScriptHost.Conversion.Arguments
import ScriptHost.Conversion.Marshal
import ScriptHost.Capability.Registry
import ScriptHost.Engine.Realm
import ScriptHost.Library.Builtins

/-!
# Capabilities as scripts see them

A script finds under the global variable `bim` one object for each namespace that it may use, and
on it one function for each capability.

* `dispatch`: what calling such a function does;
* `Registry.installed`: the namespaces that a set of permissions lets through;
* `Heap.install`: the heap of a session with its console and its capabilities.
-/

namespace ScriptHost

/-! ### Calls -/

/-- A capability by its full name. -/
def capabilityPath (namespaceName method : String) : String :=
  rootName ++ "." ++ namespaceName ++ "." ++ method

/-- The class of the error that a script gets when a conversion fails. -/
def ConversionError.errorClass : ConversionError → ErrorClass
  | tooDeep => .typeError
  | tooLarge _ => .rangeError
  | deadlineExpired => .internalError
  | engine _ => .typeError

/-- Throws what a script gets when a conversion for a capability fails.  What the script itself
threw meanwhile goes on as it is. -/
def throwConversion {α : Type} (path : String) (e : ConversionError) : Script α :=
  match e with
  | .engine (.halted h) => throw h
  | .engine cause => throwNew e.errorClass cause.message
  | e => throwNew e.errorClass (path ++ ": " ++ e.message)

/-- What a conversion does, as part of a call of a capability. -/
def duringCall {α : Type} (path : String) (c : Conversion α) : Script α :=
  c.sequel .give (throwConversion path)

/-- The error that a capability reports.  Its message shows. -/
def reportedError (message : String) : Object :=
  { errorObject .error none with
    properties := [stackProperty, ("message", .plain (.ofString message))] }

/-- What a capability does, as part of a call. -/
def invokeCapability (path : String) (method : Method) (args : List Argument) : Service Json := do
  match ← Action.act (method.invoke.call args) with
  | .ok j => return j
  | .error e => do
    let r ← allocate (reportedError (path ++ ": " ++ e.message))
    throw (.thrown (.object r))

/-- Calls a capability: reads the arguments, runs the action, and hands back the result. -/
def dispatch (budget : Budget) (namespaceName : String) (method : Method)
    (args : List Value) : Service Value := do
  let path := capabilityPath namespaceName method.name
  let native ← duringCall path (convertArguments budget method.args args)
  let result ← invokeCapability path method native
  duringCall path (marshalResult method.returns result)

/-! ### Installation -/

/-- The namespaces that a set of permissions lets through, in the order of the table. -/
def Registry.installed (r : Registry) (p : Permissions) : Registry :=
  List.filter (fun ns => p.isGranted ns.permission) r

/-- A property that shows but does not change. -/
def frozenProperty (v : Value) : Property := .data v ⟨false, true, false⟩

/-- The names of the methods in the order of their units, as complaints list them. -/
def Namespace.available (ns : Namespace) : String :=
  let names := (ns.methodNames.map fun n => (Units.ofString n, n)).mergeSort fun a b =>
    Units.le a.1 b.1
  String.intercalate ", " (names.map Prod.snd)

/-- How many objects a namespace takes: its functions, and four for the namespace itself. -/
def Namespace.objectCount (ns : Namespace) : Nat := ns.methods.length + 4

/-- A heap that the host builds. -/
abbrev Building := StateM Heap

namespace Building

/-- A new object. -/
def add (o : Object) : Building Ref := fun h => h.allocate o

/-- Sets a property of an object. -/
def define (r : Ref) (key : Key) (p : Property) : Building Unit := fun h =>
  ((), h.modify r fun o => o.put key p)

/-- New functions for the methods of a namespace, as properties. -/
def addCapabilities (namespaceName : String) :
    List Method → Building (List (Key × Property))
  | [] => return []
  | m :: rest => do
    let f ← add (functionObject (.capability namespaceName m.name) (.unicode m.name) 0)
    let ps ← addCapabilities namespaceName rest
    -- assigning to this name makes no property
    return if m.name = "__proto__" then ps else (m.name, frozenProperty (.object f)) :: ps

/-- A new object for a namespace: what reads from it goes through a gate. -/
def addNamespace (passthrough : Ref) (ns : Namespace) : Building Ref := do
  let ps ← addCapabilities ns.name ns.methods
  let target ← add
    { kind := .plain, prototype := some Family.object.prototype
      properties := ps, extensible := false }
  let gate ← add (functionObject (.builtin (.gate ns.name ns.available passthrough))
    (.unicode "get") 3)
  let handler ← add
    { kind := .plain, prototype := some Family.object.prototype
      properties := [("get", .plain (.object gate))] }
  add { kind := .proxy target handler false, prototype := none }

/-- Keeps so many places free, with blank objects that nothing refers to. -/
def reserve : Nat → Building Unit
  | 0 => return
  | n + 1 => do
    let _ ← add { kind := .plain, prototype := none }
    reserve n

/-- New objects for the granted ones of the namespaces, as properties.  The places of the others
stay free, so the places of all other objects do not depend on what is granted. -/
def addNamespaces (passthrough : Ref) (p : Permissions) :
    List Namespace → Building (List (Key × Property))
  | [] => return []
  | ns :: rest =>
    if p.isGranted ns.permission then do
      let r ← addNamespace passthrough ns
      let ps ← addNamespaces passthrough p rest
      return if ns.name = "__proto__" then ps else (ns.name, frozenProperty (.object r)) :: ps
    else do
      reserve ns.objectCount
      addNamespaces passthrough p rest

/-- The names that a namespace may lack without complaint, since others look for them. -/
def addPassthrough : Building Ref :=
  let entry (name : String) : Option (Value × Value) :=
    some (.ofString name, .ofString name)
  add
    { kind := .collection .set #[entry "toJSON", entry "then"]
      prototype := some (Family.collection .set).prototype }

/-- The object that holds the namespaces. -/
def rootObject (ps : List (Key × Property)) : Object where
  kind := .plain
  prototype := some Family.object.prototype
  properties := ps
  extensible := false

/-- The object that holds the granted namespaces, under its global name. -/
def addRoot (r : Registry) (p : Permissions) : Building Unit := do
  let passthrough ← addPassthrough
  let ps ← addNamespaces passthrough p r
  let root ← add (rootObject ps)
  define globalRef rootName (frozenProperty (.object root))

/-- The console, under its global name. -/
def addConsole : Building Unit := do
  let r ← add { kind := .plain, prototype := some Family.object.prototype }
  LogLevel.all.forM fun level => do
    let f ← add (functionObject (.console level) (.unicode level.methodName) 0)
    define r level.methodName (.plain (.object f))
  define globalRef "console" (.plain (.object r))

end Building

/-- The heap of a session: what every session has, the console, and the granted namespaces. -/
def Heap.install (r : Registry) (p : Permissions := .full) : Heap :=
  (Building.addRoot r p (Building.addConsole initial).2).2

end ScriptHost
