import ScriptHost.Library.Functions

/-!
# Reflection

* `ReflectFunction.run`: the functions of `Reflect`, which use an object without throwing where it
  stays as it is.
-/

namespace ScriptHost

/-- A function that objects can be made with. -/
def requireConstructor (f : Value) : Script Ref := do
  match f with
  | .object r => if ← isConstructor f then return r else refuseConstruction
  | _ => refuseConstruction

/-- What a function of `Reflect` does. -/
def ReflectFunction.run (f : ReflectFunction) (args : List Value) : Script Value :=
  let first := argument args 0
  let second := argument args 1
  let third := argument args 2
  let target : Script Ref := requireObject first "not an object"
  match f with
  | .apply => do
    requireFunction first
    call first second (← argumentList third)
  | .construct => do
    match args[2]? with
    | some f => do
      let newTarget ← requireConstructor f
      ScriptHost.construct first (← argumentList second) newTarget
    | none => do
      let given ← argumentList second
      constructNew first given
  | .defineProperty => do
    let r ← target
    let key ← toKey second
    let desc ← toDescriptor third
    return .bool (← succeeds (defineOn r key desc))
  | .deleteProperty => do
    let r ← target
    return .bool (← deleteOn r (← toKey second))
  | .get => do
    let r ← target
    let key ← toKey second
    getFrom (← chainLimit) r (args.getD 2 first) key
  | .getOwnPropertyDescriptor => do
    let r ← target
    describeProperty (← ownProperty r (← toKey second))
  | .getPrototypeOf => do return .ofRef? (← prototypeOf (← target))
  | .has => do
    let r ← target
    return .bool (← hasProperty r (← toKey second))
  | .isExtensible => do return .bool (← canExtend (← target))
  | .ownKeys => do newList ((← ownKeysOf (← target)).map Key.toValue)
  | .preventExtensions => do return .bool (← preventExtensionsOn (← target))
  | .set => do
    let r ← target
    let key ← toKey second
    return .bool (← succeeds (setFrom (← chainLimit) r key third (args.getD 3 first)))
  | .setPrototypeOf => do
    let r ← target
    let parent ← requirePrototype second
    return .bool (← succeeds (setPrototypeOn r parent))

end ScriptHost
