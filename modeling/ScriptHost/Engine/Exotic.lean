import ScriptHost.Engine.Writing
import ScriptHost.Library.Patterns

/-!
# Exotic values

* `newClosure`: a function of a script;
* `makeExotic`: a new object that is more than a list of properties.
-/

namespace ScriptHost

/-! ### Functions of scripts -/

/-- Gives a function the object that what it makes inherits from. -/
def addPrototype (f : Value) (parent : Ref) (writable : Bool) : Script Ref := do
  let p ← allocate
    { kind := .plain, prototype := some parent, properties := [("constructor", .hidden f)] }
  match f with
  | .object r =>
    Computation.change
      (.define r "prototype" (.ofProperty (.data (.object p) ⟨writable, false, false⟩)))
  | _ => pure ()
  return p

/-- A new function of a script; one that makes objects has a prototype for them. -/
def newClosure (body : Expr) (throws constructs : Bool) (scope : Scope) (name : Text) :
    Script Value := do
  let f ← newFunction (.closure body throws constructs scope) name 0
  if constructs then
    let _ ← addPrototype f Family.object.prototype true
  return f

/-- A new class of a script, and what its objects inherit from. -/
def newClass (name : String) : Script (Value × Ref) := do
  let c ← newFunction (.declaredClass false) (.unicode name) 0
  return (c, ← addPrototype c Family.object.prototype false)

/-- A new class that is derived from the class of a global name, and what its objects inherit
from. -/
def newSubclass (name parent : String) : Script (Value × Ref) := do
  let base ← requireObject (← readGlobal parent) "parent class must be constructor"
  let above ← getOf base "prototype"
  let c ← allocate { functionObject (.declaredClass true) (.unicode name) 0 with
    prototype := some base }
  return (.object c, ← addPrototype (.object c) (above.ref?.getD Family.object.prototype) false)

/-! ### Values -/

/-- An array of whole numbers. -/
def numberArray (prototype : Ref) (ns : List Nat) : Object where
  kind := .array ns.length false
  prototype := some prototype
  elements := (ns.map fun n => some (Property.plain (.ofNat n))).toArray

/-- The arguments of a call as an object: `values` is the method that walks through them, and
`forbidden` the complaint about asking for the function. -/
def argumentsObject (args : List Value) (values forbidden : Value) : Object where
  kind := .arguments
  prototype := some Family.object.prototype
  elements := (args.map fun v => some (Property.plain v)).toArray
  properties := [
    ("length", .hidden (.ofNat args.length)), (.known .iterator, .hidden values),
    ("callee", ⟨.accessor forbidden forbidden, .fixed⟩)]

/-- A new object for the arguments of a call. -/
def newArguments (args : List Value) : Script Value := do
  let values ← getOf Family.array.prototype "values"
  let forbidden ← match ← ownProperty Family.function.prototype "caller" with
    | some ⟨.accessor getter _, _⟩ => pure getter
    | _ => pure .undefined
  return .object (← allocate (argumentsObject args values forbidden))

/-- An object of a class with a method and a property that is computed. -/
def newInstanceOfClass : Script Value := do
  let (_, p) ← newClass "P"
  let method ← newClosure (.number (.ofInt 3)) false false [] (.unicode "m")
  let getter ← newClosure (.number (.ofInt 2)) false false [] (.unicode "get acc")
  Computation.change (.define p "acc" (.ofProperty ⟨.accessor getter .undefined, .label⟩))
  Computation.change (.define p "m" (.ofProperty (.hidden method)))
  return .object (← allocate
    { kind := .plain, prototype := some p, properties := [("own", .plain (.ofNat 1))] })

/-- A new exotic value. -/
def makeExotic : Exotic → Script Value
  | .map => newOf (.collection .map) (.collection .map #[some (.ofNat 1, .ofNat 2)])
  | .set => newOf (.collection .set) (.collection .set #[some (.ofNat 1, .ofNat 1)])
  | .promise => newOf .promise (.promise true)
  | .generator => do
    let p ← newPlain (some Family.generator.prototype)
    return .object (← allocate { kind := .generator [], prototype := some p })
  | .arrayBuffer => newOf .buffer (.buffer { bytes := Array.replicate 4 0 })
  | .regexp => newPattern [.ofString "a", .ofString "g"]
  | .date => newOf .date (.date (.zero false))
  | .math => readGlobal "Math"
  | .boxedNumber => newOf .number (.boxed (.ofNat 5))
  | .boxedBool => newOf .boolean (.boxed (.bool true))
  | .boxedString => do return .object (← allocate (boxedText (.unicode "ab")))
  | .uint8 => do
    let buffer ← allocate
      { kind := .buffer { bytes := #[7, 8] }, prototype := some Family.buffer.prototype }
    newOf (.elements .uint8) (.elements .uint8 buffer 0 (some 2))
  | .arguments => newArguments [.ofNat 1, .ofNat 2]
  | .symbolKey => do
    let key ← newSymbol (some (.unicode "s"))
    let r ← newObject
    match key with
    | .symbol s => createProperty r (.symbol s) (.ofNat 1)
    | _ => pure ()
    createProperty r "t" (.ofNat 2)
    return .object r
  | .proxyObject => do
    let target ← newRecord [("a", .ofNat 1)]
    let handler ← newObject
    return .object (← allocate
      { kind := .proxy (target.ref?.getD globalRef) handler false, prototype := none })
  | .classInstance => newInstanceOfClass
  | .classFunction => do return (← newClass "P").1
  | .arraySubclass => do
    let (_, p) ← newSubclass "L" "Array"
    return .object (← allocate (numberArray p [1, 2, 3]))
  | .arrayExtra => do
    let o := numberArray Family.array.prototype [1, 2]
    return .object (← allocate { o with properties := [("extra", .plain (.ofNat 3))] })
  | .sparse => newArray #[none, none, none, some (.ofNat 1)]
  | .errorSubclass => do
    let (_, p) ← newSubclass "Sub" "Error"
    return .object (← allocate
      { errorObject .error (some (.unicode "sub")) with prototype := some p })

end ScriptHost
