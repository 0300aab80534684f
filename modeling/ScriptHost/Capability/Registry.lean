import ScriptHost.Capability.Backend
import ScriptHost.Permission

/-!
# Tables of capabilities

A capability is a row of a table: how its arguments are read, how its result is handed back, and
which action it stands for.

* `Invoke`, `Invoke.call`: an action with a fixed number of argument groups;
* `Method`, `Namespace`: a row, and a group of rows behind one permission;
* `Registry`: a table of namespaces;
* `SchemaFault`, `Registry.fault?`: the first row that breaks the rules of a table.
-/

namespace ScriptHost

/-- An action with a fixed number of argument groups. -/
structure Invoke where
  arity : Nat
  run : Vector Argument arity → Capability Json

namespace Invoke

def nullary (f : Capability Json) : Invoke := ⟨0, fun _ => f⟩
def unary (f : Argument → Capability Json) : Invoke := ⟨1, fun v => f v[0]⟩
def binary (f : Argument → Argument → Capability Json) : Invoke := ⟨2, fun v => f v[0] v[1]⟩

def ternary (f : Argument → Argument → Argument → Capability Json) : Invoke :=
  ⟨3, fun v => f v[0] v[1] v[2]⟩

def quaternary (f : Argument → Argument → Argument → Argument → Capability Json) : Invoke :=
  ⟨4, fun v => f v[0] v[1] v[2] v[3]⟩

/-- Runs the action on a list of arguments, which must have the right length. -/
def call (i : Invoke) (args : List Argument) : Capability Json :=
  if h : args.length = i.arity then i.run ⟨args.toArray, by simpa using h⟩
  else
    throw (.invalidArgument
      ("expected " ++ toString i.arity ++ " argument group(s), got " ++ toString args.length))

/-- How an action shows itself. -/
def describe (i : Invoke) : String := "Invoke/" ++ toString i.arity

end Invoke

/-- One capability. -/
structure Method where
  name : String
  args : List ArgumentType
  returns : ResultType
  invoke : Invoke

/-- The signature of a capability on one line. -/
def Method.signature (m : Method) : String :=
  m.name ++ "(" ++ String.intercalate ", " (m.args.map ArgumentType.name) ++ "): " ++ m.returns.name

/-- A group of capabilities behind one permission. -/
structure Namespace where
  name : String
  permission : Permission
  methods : List Method

namespace Namespace

def method? (ns : Namespace) (name : String) : Option Method :=
  ns.methods.find? fun m => m.name = name

def methodNames (ns : Namespace) : List String := ns.methods.map Method.name

end Namespace

/-- A table of capabilities. -/
abbrev Registry := List Namespace

/-! ### Rules -/

/-- A row that breaks the rules of a table. -/
inductive SchemaFault
  | restNotLast (namespaceName method : String)
  | arityMismatch (namespaceName method : String) (declared arity : Nat)
  | duplicateMethod (namespaceName method : String)
  | duplicateNamespace (name : String)
  | permissionMismatch (namespaceName : String) (permission : Permission)
  | emptyNamespace (name : String)
  deriving DecidableEq, Repr

def SchemaFault.message : SchemaFault → String
  | restNotLast ns m => ns ++ "." ++ m ++ ": rest argument must be the last argument"
  | arityMismatch ns m declared arity =>
    ns ++ "." ++ m ++ ": declares " ++ toString declared ++ " argument group(s) but invoke takes "
      ++ toString arity
  | duplicateMethod ns m => ns ++ ": duplicate method '" ++ m ++ "'"
  | duplicateNamespace n => "duplicate namespace '" ++ n ++ "'"
  | permissionMismatch ns p =>
    "namespace '" ++ ns ++ "' must be gated by the '" ++ ns ++ "' permission, not '" ++ p.key ++ "'"
  | emptyNamespace n => "namespace '" ++ n ++ "' declares no methods"

/-- The rule that a row breaks: its rest argument comes last, and it has as many argument groups
as its action takes. -/
def Method.fault? (namespaceName : String) (m : Method) : Option SchemaFault :=
  if m.args.dropLast.contains .restStrings then some (.restNotLast namespaceName m.name)
  else if m.invoke.arity ≠ m.args.length then
    some (.arityMismatch namespaceName m.name m.args.length m.invoke.arity)
  else none

/-- The first of the rows that breaks a rule, where `seen` are the names before them. -/
def Namespace.methodsFault? (namespaceName : String) :
    List String → List Method → Option SchemaFault
  | _, [] => none
  | seen, m :: rest =>
    if seen.contains m.name then some (.duplicateMethod namespaceName m.name)
    else (m.fault? namespaceName).or (methodsFault? namespaceName (m.name :: seen) rest)

/-- The rule that a namespace breaks: the permission of its name gates it, it has rows, and no two
rows share a name. -/
def Namespace.fault? (ns : Namespace) : Option SchemaFault :=
  if ns.permission.key ≠ ns.name then some (.permissionMismatch ns.name ns.permission)
  else if ns.methods.isEmpty then some (.emptyNamespace ns.name)
  else methodsFault? ns.name [] ns.methods

namespace Registry

/-- The first of the namespaces that breaks a rule, where `seen` are the names before them. -/
def faultAfter? : List String → Registry → Option SchemaFault
  | _, [] => none
  | seen, ns :: rest =>
    if seen.contains ns.name then some (.duplicateNamespace ns.name)
    else ns.fault?.or (faultAfter? (ns.name :: seen) rest)

/-- The first rule that a table breaks. -/
def fault? (r : Registry) : Option SchemaFault := r.faultAfter? []

def namespace? (r : Registry) (name : String) : Option Namespace :=
  List.find? (fun ns => ns.name = name) r

def methodCount (r : Registry) : Nat := total (r.map fun ns => ns.methods.length)

end Registry

end ScriptHost
