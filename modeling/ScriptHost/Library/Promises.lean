import ScriptHost.Library.Functions
import ScriptHost.Library.Species

/-!
# Promises

A promise is told once what becomes of it.  Those that wait for it are told later, when no script
runs any more, so nothing that scripts do shows whether a promise has been told.

* `PromiseParts`: a promise and the functions that tell it what becomes of it;
* `promiseOf`: the promise that a value is or becomes;
* `gatherPromises`: a promise that waits for others;
* `PromiseMethod.run`, `makePromise`: the functions and methods of promises.
-/

namespace ScriptHost

/-! ### Telling promises -/

/-- A promise, and the functions that tell it what becomes of it. -/
structure PromiseParts where
  promise : Value
  resolve : Value
  reject : Value

/-- The functions that tell a promise what becomes of it. -/
def tellersOf (promise : Ref) : Script PromiseParts := do
  let teller (refuses : Bool) : Script Value :=
    newFunction (.builtin (.promise (.settle promise refuses))) (.unicode "") 1
  return ⟨.object promise, ← teller false, ← teller true⟩

/-- Tells a promise what becomes of it, unless it has been told.  Another object than itself is
asked whether it is like a promise. -/
def tellPromise (promise : Ref) (refuses : Bool) (v : Value) : Script Unit := do
  match (← readObject promise).kind with
  | .promise false =>
    become promise (.promise true)
    match v with
    | .object r =>
      if refuses || r = promise then return
      else catchThrown (do let _ ← getOf r "then") fun _ => return
    | _ => return
  | _ => return

/-! ### Promises of a class -/

/-- A new promise that a constructor makes. -/
def newPromise (c : Value) : Script PromiseParts := do
  let slot ← newPlain none
  let accept ← newFunction (.builtin (.promise (.accept slot))) (.unicode "") 2
  let promise ← constructNew c [accept]
  let resolve ← getOf slot "resolve"
  let reject ← getOf slot "reject"
  requireFunction resolve
  requireFunction reject
  return ⟨promise, resolve, reject⟩

/-- Keeps the functions that tell a new promise what becomes of it. -/
def acceptTellers (slot : Ref) (resolve reject : Value) : Script Unit := do
  let known (name : String) : Script Bool := do return (← getOf slot name) != .undefined
  if (← known "resolve") || (← known "reject") then throwType "resolving function already set"
  else
    Computation.change (.define slot "resolve" (.plain resolve))
    Computation.change (.define slot "reject" (.plain reject))

/-- Whether a value is a promise. -/
def isPromise (v : Value) : Script Bool := do
  match v with
  | .object r =>
    match (← readObject r).kind with
    | .promise _ => return true
    | _ => return false
  | _ => return false

/-- A promise of a class that a value becomes. -/
def promiseFor (c : Value) (refuses : Bool) (v : Value) : Script Value := do
  let p ← newPromise c
  let _ ← call (if refuses then p.reject else p.resolve) .undefined [v]
  return p.promise

/-- A promise of a class that a value is or becomes. -/
def promiseOf (c v : Value) : Script Value := do
  if ← isPromise v then
    if (← getProperty v "constructor") == c then return v
  promiseFor c false v

/-- The error that promises have all been refused. -/
def newRefusals (errors : Value) : Script Value := do
  return .object (← allocate
    { kind := .error, prototype := some (Family.error .aggregateError).prototype
      properties := [("errors", .hidden errors)] })

/-- A promise that waits for those that values become. -/
def gatherPromises (choice : PromiseChoice) (c values : Value) : Script Value := do
  let p ← newPromise c
  let body : Script Unit := do
    let resolve ← getProperty c "resolve"
    requireFunction resolve
    let count ← iterate values 0 fun count v => do
      let next ← call resolve c [v]
      let inert ← newFunction (.builtin .inert) (.unicode "") 1
      let answers := match choice with
        | .all => [inert, p.reject]
        | .allSettled => [inert, inert]
        | .any => [p.resolve, inert]
        | .race => [p.resolve, p.reject]
      let _ ← callMethod next "then" answers
      return (true, count + 1)
    if count = 0 && choice != .race then
      let none ← newList []
      if choice = .any then
        let _ ← call p.reject .undefined [← newRefusals none]
      else
        let _ ← call p.resolve .undefined [none]
  catchThrown body fun e => do
    let _ ← call p.reject .undefined [e]
  return p.promise

/-! ### Functions -/

/-- What a function of `Promise` or a method of promises does. -/
def PromiseMethod.run (f : PromiseMethod) (this : Value) (args : List Value) : Script Value :=
  let first := argument args 0
  match f with
  | .resolve => do
    let _ ← requireObject this "not an object"
    promiseOf this first
  | .reject => do
    let _ ← requireObject this "not an object"
    promiseFor this true first
  | .gather choice => do
    let _ ← requireObject this "not an object"
    gatherPromises choice this first
  | .attempt => do
    let _ ← requireObject this "not an object"
    let p ← newPromise this
    let (teller, result) ← catchThrown
      (do return (p.resolve, ← call first .undefined (args.drop 1)))
      fun e => return (p.reject, e)
    let _ ← call teller .undefined [result]
    return p.promise
  | .parts => do
    let _ ← requireObject this "not an object"
    let p ← newPromise this
    newRecord [("promise", p.promise), ("resolve", p.resolve), ("reject", p.reject)]
  | .whenSettled => do
    if ← isPromise this then
      match ← speciesOf this with
      | none => newOf .promise (.promise false)
      | some c => return (← newPromise c).promise
    else throwType "Promise object expected"
  | .whenRefused => callMethod this "then" [.undefined, first]
  | .atLast => do
    let _ ← requireObject this "not an object"
    let _ ← speciesOf this
    if ← isCallable first then
      let settled ← newFunction (.builtin .inert) (.unicode "") 1
      let failed ← newFunction (.builtin .inert) (.unicode "") 1
      callMethod this "then" [settled, failed]
    else callMethod this "then" [first, first]
  | .settle promise refuses => do
    tellPromise promise refuses first
    return .undefined
  | .accept slot => do
    acceptTellers slot first (argument args 1)
    return .undefined

/-- A new promise; a function is told how to tell it what becomes of it. -/
def makePromise (how : Invocation) (args : List Value) : Script Value := do
  let f := argument args 0
  requireFunction f
  let p ← tellersOf (← newInstance how .promise (.promise false))
  let _ ← catchThrown (call f .undefined [p.resolve, p.reject]) fun e =>
    call p.reject .undefined [e]
  return p.promise

end ScriptHost
