import ScriptHost.Library.Objects

/-!
# What functions can do

* `isInstance`: whether a value was made by a function;
* `newInstance`, `newPlainInstance`: a new object for a call of a constructor;
* `FunctionMethod.run`: the methods of functions.
-/

namespace ScriptHost

/-! ### Instances -/

/-- Whether a value inherits from the `prototype` of a function. -/
def inheritsFrom (f v : Value) : Script Bool := do
  if !(← isCallable f) then return false
  match v, f with
  | .object r, .object c =>
    match ← getOf (← Computation.look (.unbound c)) "prototype" with
    | .object p => isAbove p (← chainLimit) r
    | _ => throwType "operand 'prototype' property is not an object"
  | _, _ => return false

/-- Whether a value was made by a function, which decides about that itself. -/
def isInstance (v f : Value) : Script Bool := do
  let c ← requireObject f "invalid 'instanceof' right operand"
  let decide ← getOf c (.known .hasInstance)
  if !decide.isNullish then return (← call decide f [v]).truthy
  else if ← isCallable f then inheritsFrom f v
  else throwType "invalid 'instanceof' right operand"

/-- The prototype for a new object: that of the class it is made for, or else of a family. -/
def prototypeFor (how : Invocation) (f : Family) : Script Ref := do
  match how with
  | .plain _ => return f.prototype
  | .making c =>
    match ← getOf c "prototype" with
    | .object r => return r
    | _ => return f.prototype

/-- A new object for a call of a constructor. -/
def newInstance (how : Invocation) (f : Family) (kind : Kind)
    (scripted : kind.isScripted = true := by intros; rfl) : Script Ref := do
  allocate { kind, prototype := some (← prototypeFor how f) } scripted

/-- A new plain object for a call of a constructor. -/
def newPlainInstance (how : Invocation) (f : Family) : Script Ref := newInstance how f .plain

/-! ### Texts -/

/-- The source text of a function that is not written in a script. -/
def nativeText (name : Text) : Text :=
  .unicode "function " ++ name ++ .unicode "() \x7b\n    [native code]\n\x7d"

/-- The source text of a class that declares nothing. -/
def classText (name parent : Text) (derived : Bool) : Text :=
  let above : Text := if derived then .unicode " extends " ++ parent else .unicode ""
  .unicode "class " ++ name ++ above ++ .unicode " \x7b\x7d"

/-- The source text of a function. -/
def functionText (v : Value) : Script Text := do
  match v with
  | .object r =>
    if !(← isCallable v) then throwType "not a function"
    match (← readObject r).callable? with
    | some (.closure ..) => return .unicode "() => 1"
    | some (.declaredClass derived) =>
      let name ← toText (← getOf r "name")
      let parent : Text ← match (← readObject r).prototype with
        | some q => if derived then do toText (← getOf q "name") else pure (.unicode "")
        | none => pure (.unicode "")
      return classText name parent derived
    | _ =>
      match ← getOf r "name" with
      | .undefined => return nativeText (.unicode "")
      | name => return nativeText (← toText name)
  | _ => throwType "not a function"

/-! ### Arguments -/

/-- How many arguments a call takes. -/
def maxArguments : Nat := 65534

/-- The arguments that a list holds. -/
def argumentList (v : Value) : Script (List Value) := do
  match v with
  | .object _ =>
    let count ← lengthOf v
    if count > maxArguments then
      throwNew .rangeError
        ("too many arguments in function call (only " ++ toString maxArguments ++ " allowed)")
    else itemsFrom v count 0
  | _ => throwType "not a object"

/-- A new function that calls another with a receiver and arguments of its own. -/
def bindFunction (f this : Value) (args : List Value) : Script Value := do
  requireFunction f
  let target ← requireObject f "not a function"
  let count ← match ← ownProperty target "length" with
    | some _ =>
      match ← getOf target "length" with
      | .number d => pure (d.clampTo 0 maxLength).toNat
      | _ => pure 0
    | none => pure 0
  let name ← match ← getOf target "name" with
    | .string t => pure t
    | _ => pure (.unicode "")
  newFunction (.bound target this args) (.unicode "bound " ++ name) (count - args.length)

/-- The name under which the engine knows the source of a script. -/
def sourceName : String := "eval_script"

/-- An answer about functions that are written in a script; others have none. -/
def ofWritten (this answer : Value) : Script Value := do
  match this with
  | .object r =>
    match (← readObject r).callable? with
    | some (.closure ..) | some (.declaredClass _) => return answer
    | _ => return .undefined
  | _ => return .undefined

/-- What a method of functions does. -/
def FunctionMethod.run (f : FunctionMethod) (this : Value) (args : List Value) : Script Value :=
  let first := argument args 0
  match f with
  | .call => ScriptHost.call this first (args.drop 1)
  | .apply => do
    requireFunction this
    let list := argument args 1
    ScriptHost.call this first (← if list.isNullish then pure [] else argumentList list)
  | .bind => bindFunction this first (args.drop 1)
  | .toText => do return .string (← functionText this)
  | .hasInstance => do return .bool (← inheritsFrom this first)
  | .nothing => return .undefined
  | .forbidden => throwType "invalid property access"
  | .fileName => ofWritten this (.ofString sourceName)
  | .place => ofWritten this (.ofNat 1)

end ScriptHost
