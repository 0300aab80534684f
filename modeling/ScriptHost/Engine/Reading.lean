import ScriptHost.Engine.Machine

/-!
# Reading properties

* `getFrom`, `hasFrom`, `ownProperty`, `canExtend`, `prototypeOf`: what scripts see, where the
  handlers of proxies are asked and held to what their targets say;
* `descriptorOf`: the definition of a property that an object tells;
* `getProperty`: a property of any value; `getNamed`: the same where complaints name it;
* `readGlobal`: a global variable;
* `isCallable`, `isConstructor`, `isArray`: what an object is, whatever proxies stand before it;
* `refuseConstruction`: the complaint about what makes no objects.

Whatever follows a chain of prototypes and of the targets of proxies has a bound on its length.
Objects that meet again on a chain would keep it going for ever, so there the stack is full.
-/

namespace ScriptHost

/-- How far a chain of objects can go. -/
def chainLimit : Script Nat := do return (← Computation.look .size) + 1

/-! ### What an object is -/

/-- What stands behind the proxies before an object. -/
def behindProxies (r : Ref) : Script Object := .look (.behind r)

/-- Whether a value can be called. -/
def isCallable (v : Value) : Script Bool :=
  match v with
  | .object r => do return (← behindProxies r).callable?.isSome
  | _ => return false

/-- Whether objects can be made with a value. -/
def isConstructor (v : Value) : Script Bool :=
  match v with
  | .object r => do
    match (← behindProxies r).callable? with
    | some f => .look (.constructs f)
    | none => return false
  | _ => return false

/-- Throws because no objects can be made with a value. -/
def refuseConstruction {α : Type} : Script α := throwType "not a constructor"

/-- Whether an array stands behind the proxies before an object, all of which are in use. -/
def isArrayFrom : Nat → Ref → Script Bool
  | 0, _ => stackExceeded
  | fuel + 1, r => do
    let o ← readObject r
    match o.kind with
    | .proxy target _ revoked =>
      if revoked then throwType "revoked proxy" else isArrayFrom fuel target
    | _ => return o.isArray

/-- Whether a value is an array. -/
def isArray (v : Value) : Script Bool :=
  match v with
  | .object r => do isArrayFrom (← chainLimit) r
  | _ => return false

/-! ### Reading along a chain -/

/-- What a property gives to a receiver. -/
def readContent (p : Property) (receiver : Value) : Script Value :=
  match p.content with
  | .data v => return v
  | .accessor .undefined _ => return .undefined
  | .accessor getter _ => call getter receiver []

/-- Whether a target may give a value under a property of its own: what cannot change must not. -/
def Property.allows (p : Property) (v : Value) : Bool :=
  p.attributes.configurable ||
    match p.content with
    | .data w => p.attributes.writable || w.same v
    | .accessor getter _ => getter != .undefined || v == .undefined

/-- Whether a target may be said to have got a value by an assignment. -/
def Property.allowsWrite (p : Property) (v : Value) : Bool :=
  p.attributes.configurable ||
    match p.content with
    | .data w => p.attributes.writable || w.same v
    | .accessor _ setter => setter != .undefined

/-- The function of a handler for a use of its target, if the handler has one. -/
def trap? (lookUp : Script Value) (revoked : Bool) : Script (Option Value) :=
  if revoked then throwType "revoked proxy"
  else do
    let f ← lookUp
    return if f.isNullish then none else some f

/-- A value as an answer to a question. -/
def Value.truthy : Value → Bool
  | .undefined | .null => false
  | .bool b => b
  | .number d => !(d.isNaN || d.isZero)
  | .string t => !t.isEmpty
  | .bigint n => n ≠ 0
  | .symbol _ | .object _ => true

/-- A getter or a setter, which must be callable if it is not undefined. -/
def requireAccessor (complaint : String) (f : Value) : Script Value := do
  if f == .undefined || (← isCallable f) then return f else throwType complaint

/-- The definition that an object tells; `part` is what it has under a name, if it has something. -/
def descriptorOf (part : String → Script (Option Value)) : Script Descriptor := do
  let configurable ← part "configurable"
  let enumerable ← part "enumerable"
  let value ← part "value"
  let writable ← part "writable"
  let getter ← (← part "get").mapM (requireAccessor "invalid getter")
  let setter ← (← part "set").mapM (requireAccessor "invalid setter")
  if (getter.isSome || setter.isSome) && (value.isSome || writable.isSome) then
    throwType "cannot have setter/getter and value or writable"
  else
    return {
      value, getter, setter
      writable := writable.map Value.truthy
      enumerable := enumerable.map Value.truthy
      configurable := configurable.map Value.truthy }

/-- Whether a handler may describe a property so, if its target has one or can get one. -/
def Descriptor.describes (d : Descriptor) (kept : Option Property) (extensible : Bool) : Bool :=
  match kept with
  | none => extensible && d.configurable = some true
  | some p =>
    d.agrees p && (d.configurable = some true || !p.attributes.configurable &&
      (!p.attributes.writable || d.writable = some true))

mutual

/-- Reads the property under a key, of an object and what it inherits from, for a receiver. -/
def getFrom : Nat → Ref → Value → Key → Script Value
  | 0, _, _, _ => stackExceeded
  | fuel + 1, r, receiver, key => do
    let o ← readObject r
    match o.kind with
    | .proxy target handler revoked =>
      match ← trap? (getFrom fuel handler (.object handler) "get") revoked with
      | none => getFrom fuel target receiver key
      | some f =>
        let v ← call f (.object handler) [.object target, key.toValue, receiver]
        if (← ownFrom fuel target key).all fun p => p.allows v then return v
        else throwType "proxy: inconsistent get"
    | _ =>
      match ← readOwn r key with
      | some p => readContent p receiver
      | none =>
        if Heap.stopsAt o key then return .undefined
        else
          match o.prototype with
          | some parent => getFrom fuel parent receiver key
          | none => return .undefined

/-- Whether an object or what it inherits from has a property under a key. -/
def hasFrom : Nat → Ref → Key → Script Bool
  | 0, _, _ => stackExceeded
  | fuel + 1, r, key => do
    let o ← readObject r
    match o.kind with
    | .proxy target handler revoked =>
      match ← trap? (getFrom fuel handler (.object handler) "has") revoked with
      | none => hasFrom fuel target key
      | some f =>
        let v ← call f (.object handler) [.object target, key.toValue]
        if v.truthy then return true
        else
          let kept ← ownFrom fuel target key
          let t ← readObject target
          if kept.any fun p => !p.attributes.configurable || !t.extensible then
            throwType "proxy: inconsistent has"
          else return false
    | _ =>
      if (← readOwn r key).isSome then return true
      else if Heap.stopsAt o key then return false
      else
        match o.prototype with
        | some parent => hasFrom fuel parent key
        | none => return false

/-- The property that an object itself has under a key. -/
def ownFrom : Nat → Ref → Key → Script (Option Property)
  | 0, _, _ => stackExceeded
  | fuel + 1, r, key => do
    let o ← readObject r
    match o.kind with
    | .proxy target handler revoked =>
      let wrong {α : Type} : Script α := throwType "proxy: inconsistent getOwnPropertyDescriptor"
      let use := "getOwnPropertyDescriptor"
      match ← trap? (getFrom fuel handler (.object handler) use) revoked with
      | none => ownFrom fuel target key
      | some f =>
        match ← call f (.object handler) [.object target, key.toValue] with
        | .undefined => do
          let kept ← ownFrom fuel target key
          let t ← readObject target
          if kept.any fun p => !p.attributes.configurable || !t.extensible then wrong
          else return none
        | .object d => do
          let kept ← ownFrom fuel target key
          let extensible ← extensibleFrom fuel target
          let desc ← descriptorOf fun name => do
            if ← hasFrom fuel d name then return some (← getFrom fuel d (.object d) name)
            else return none
          if desc.describes kept extensible then return some desc.fresh else wrong
        | _ => wrong
    | _ => readOwn r key

/-- Whether an object can get new properties. -/
def extensibleFrom : Nat → Ref → Script Bool
  | 0, _ => stackExceeded
  | fuel + 1, r => do
    let o ← readObject r
    match o.kind with
    | .proxy target handler revoked =>
      match ← trap? (getFrom fuel handler (.object handler) "isExtensible") revoked with
      | none => extensibleFrom fuel target
      | some f =>
        let v ← call f (.object handler) [.object target]
        if v.truthy = (← extensibleFrom fuel target) then return v.truthy
        else throwType "proxy: inconsistent isExtensible"
    | _ => return o.extensible

end

/-- Reads a property of an object. -/
def getOf (r : Ref) (key : Key) : Script Value := do getFrom (← chainLimit) r (.object r) key

/-- Whether an object or what it inherits from has a property under a key. -/
def hasProperty (r : Ref) (key : Key) : Script Bool := do hasFrom (← chainLimit) r key

/-- The property that an object itself has under a key. -/
def ownProperty (r : Ref) (key : Key) : Script (Option Property) := do
  ownFrom (← chainLimit) r key

/-- Whether an object can get new properties. -/
def canExtend (r : Ref) : Script Bool := do extensibleFrom (← chainLimit) r

/-- The prototype of an object. -/
def prototypeFrom : Nat → Ref → Script (Option Ref)
  | 0, _ => stackExceeded
  | fuel + 1, r => do
    let o ← readObject r
    match o.kind with
    | .proxy target handler revoked =>
      match ← trap? (getOf handler "getPrototypeOf") revoked with
      | none => prototypeFrom fuel target
      | some f =>
        let v ← call f (.object handler) [.object target]
        match v with
        | .null | .object _ =>
          if ← canExtend target then return v.ref?
          else if (← prototypeFrom fuel target) = v.ref? then return v.ref?
          else throwType "proxy: inconsistent prototype"
        | _ => throwType "proxy: inconsistent prototype"
    | _ => return o.prototype

def prototypeOf (r : Ref) : Script (Option Ref) := do prototypeFrom (← chainLimit) r

/-! ### Values -/

/-- Reads a property of a value that is neither undefined nor null. -/
def getSettled (v : Value) (key : Key) : Script Value := do
  let fuel ← chainLimit
  match v with
  | .object r => getFrom fuel r v key
  | .string t =>
    if key = "length" then return .ofNat t.length
    else
      match key.index?.bind t.unitAt? with
      | some u => return .string u
      | none => getFrom fuel Family.text.prototype v key
  | v =>
    match Family.ofPrimitive? v with
    | some f => getFrom fuel f.prototype v key
    | none => return .undefined

/-- Reads a property of a value. -/
def getProperty (v : Value) (key : Key) : Script Value :=
  match v with
  | .undefined => throwType "cannot read property of undefined"
  | .null => throwType "cannot read property of null"
  | v => getSettled v key

/-- Reads a property of a value that the language itself knows. -/
def getNamed (v : Value) (key : Key) : Script Value :=
  match v with
  | .undefined => throwType ("cannot read property '" ++ key.shown ++ "' of undefined")
  | .null => throwType ("cannot read property '" ++ key.shown ++ "' of null")
  | v => getSettled v key

/-- The function under a key of a value, or undefined if there is nothing. -/
def getMethod (v : Value) (key : Key) : Script Value := do
  let f ← getNamed v key
  if f.isNullish then return .undefined
  else if ← isCallable f then return f
  else throwType "not a function"

/-- Calls a method of a value. -/
def callMethod (v : Value) (name : String) (args : List Value) : Script Value := do
  call (← getNamed v name) v args

/-- The value of a global variable. -/
def readGlobal (name : String) : Script Value := do
  if ← hasProperty globalRef name then getOf globalRef name
  else throwNew .referenceError (Key.shownName name ++ " is not defined")

end ScriptHost
