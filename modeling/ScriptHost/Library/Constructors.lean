import ScriptHost.Library.Collections
import ScriptHost.Library.Dates
import ScriptHost.Library.Globals
import ScriptHost.Library.Primitives
import ScriptHost.Library.Promises
import ScriptHost.Library.Views

/-!
# Constructors

* `makeArray`, `giveOrWrap` and the like: what single constructors make;
* `Constructor.run`: what a constructor makes, or gives when it is called like any other function.
-/

namespace ScriptHost

/-- The number that a value becomes, of which a big integer keeps as much as there is room for. -/
def numberFor (args : List Value) : Script Double := do
  match args with
  | [] => return .zero false
  | v :: _ =>
    match ← toNumeric v with
    | .number d => return d
    | .bigint n => return .ofInt n
    | _ => return .nan

/-- The big integer that a value becomes; a number must be whole. -/
def bigIntFor (v : Value) : Script Int := do
  match ← toPrimitive .number v with
  | .number d =>
    match d.toInt? with
    | some n => return n
    | none =>
      if d.isFinite then throwNew .rangeError "cannot convert to BigInt: not an integer"
      else throwNew .rangeError "cannot convert NaN or Infinity to BigInt"
  | w => toBigInt w

/-- A new array of a length, or of items. -/
def makeArray (how : Invocation) (args : List Value) : Script Value := do
  let prototype ← prototypeFor how .array
  match args with
  | [.number d] =>
    let length ← lengthOfNumber d
    return .object (← allocate { kind := .array length false, prototype := some prototype })
  | args =>
    return .object (← allocate
      { kind := .array args.length false, prototype := some prototype
        elements := (args.map fun v => some (Property.plain v)).toArray })

/-- A value, or an object around it for a call that makes objects. -/
def giveOrWrap (how : Invocation) (f : Family) (v : Value) : Script Value := do
  match how with
  | .plain _ => return v
  | .making _ =>
    match v with
    | .string t =>
      let prototype ← prototypeFor how f
      return .object (← allocate { boxedText t with prototype := some prototype })
    | v => return .object (← newInstance how f (.boxed v))

/-- Throws unless a call makes an object. -/
def requireNew (how : Invocation) : Script Unit :=
  match how with
  | .plain _ => throwType "must be called with new"
  | .making _ => return

/-- Throws if a call makes an object. -/
def refuseNew (how : Invocation) : Script Unit :=
  match how with
  | .plain _ => return
  | .making _ => refuseConstruction

/-- What a constructor makes or gives; `self` is where the constructor lies. -/
def Constructor.run (c : Constructor) (self : Ref) (how : Invocation) (args : List Value) :
    Script Value :=
  let first := argument args 0
  let anew : Invocation := match how with
    | .plain _ => .making self
    | .making r => .making r
  match c with
  | .object => do
    let ordinary := match how with
      | .plain _ => false
      | .making r => r != self
    if ordinary then return .object (← newPlainInstance how .object)
    else if first.isNullish then return .object (← newObject)
    else return .object (← toObject first)
  | .function => do
    newFunction (.closure .undefined false false []) (.unicode "anonymous") 0
  | .error c => makeError c anew args
  | .array => makeArray anew args
  | .number => do giveOrWrap how .number (.number (← numberFor args))
  | .boolean => giveOrWrap how .boolean (.bool first.truthy)
  | .text => do
    let t ← match how, args with
      | _, [] => pure (Text.unicode "")
      | .plain _, .symbol s :: _ => pure (symbolText s)
      | _, v :: _ => toText v
    giveOrWrap how .text (.string t)
  | .symbol => do
    refuseNew how
    match first with
    | .undefined => newSymbol none
    | v => newSymbol (some (← toText v))
  | .bigint => do
    refuseNew how
    return .bigint (← bigIntFor first)
  | .collection c => do
    requireNew how
    makeCollection c how args
  | .promise => do
    requireNew how
    makePromise how args
  | .date => makeDate how args
  | .regexp =>
    match how with
    | .plain _ => patternOf self args
    | .making _ => makePattern how args
  | .buffer shared => do
    requireNew how
    makeBuffer shared how args
  | .elements none => throwType "cannot be called"
  | .elements (some t) => do
    requireNew how
    makeElements t how args
  | .view => do
    requireNew how
    makeView how args
  | .proxy => do
    requireNew how
    return .object (← makeProxy args)
  | .iterator =>
    match how with
    | .making r => do
      if r = self then throwType "abstract class not constructable"
      else return .object (← newPlainInstance how .iterator)
    | .plain _ => throwType "constructor requires 'new'"
  | .weakRef => do
    requireNew how
    if isWatchable first then return .object (← newInstance how .weakRef (.weakRef first))
    else throwType "invalid target"
  | .finalizationRegistry => do
    requireNew how
    if ← isCallable first then
      return .object (← newInstance how .finalizationRegistry (.watcher []))
    else throwType "argument must be a function"

end ScriptHost
