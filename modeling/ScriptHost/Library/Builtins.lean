import ScriptHost.Library.Constructors
import ScriptHost.Library.Mathematics
import ScriptHost.Library.Reflection

/-!
# Calls of built-in functions

* `guardRead`: what reading a property of a namespace of capabilities does;
* `Builtin.run`: what a built-in function does.
-/

namespace ScriptHost

/-- The name of the global variable under which scripts find their capabilities. -/
def rootName : String := "bim"

/-- Reads a property of a namespace.  Names that the namespace has, or that are in a set, are read
as usual; any other is an error that lists the available ones. -/
def guardRead (namespaceName available : String) (passthrough : Ref) (target : Ref)
    (key receiver : Value) : Script Value := do
  let known ← match key with
    | .string t => do
      if ← hasProperty target (.text t) then pure true
      else do pure (← callMethod (.object passthrough) "has" [key]).truthy
    | _ => pure true
  if known then
    let reflect ← readGlobal "Reflect"
    callMethod reflect "get" [.object target, key, receiver]
  else
    let name ← toText key
    let message := .unicode (rootName ++ "." ++ namespaceName ++ ".") ++ name
      ++ .unicode (" is not a function (available: " ++ available ++ ")")
    raise (← constructNew (← readGlobal "TypeError") [.string message])

/-- What a built-in function does; `self` is where it lies. -/
def Builtin.run (b : Builtin) (self : Ref) (how : Invocation) (args : List Value) :
    Script Value :=
  let this := match how with
    | .plain this => this
    | .making _ => .undefined
  match b with
  | .construct c => c.run self how args
  | .object f => f.run this args
  | .function f => f.run this args
  | .array f => f.run this args
  | .text f => f.run this args
  | .primitive f => f.run this args
  | .math f => f.run args
  | .reflect f => f.run args
  | .collection c f => f.run c this args
  | .iteration f => f.run this args
  | .buffer shared f => f.run shared this args
  | .elements f => f.run this args
  | .view f => f.run this args
  | .atomic f => f.run args
  | .date f => f.run this args
  | .pattern f => f.run this args
  | .promise f => f.run this args
  | .global f => f.run this args
  | .groupEntries => ScriptHost.groupEntries (argument args 0) (argument args 1)
  | .receiver => return this
  | .gate namespaceName available passthrough => do
    let inner ← requireObject (argument args 0) "not an object"
    guardRead namespaceName available passthrough inner (argument args 1) (argument args 2)
  | .revoke _ => revokeProxy self
  | .inert => return .undefined

end ScriptHost
