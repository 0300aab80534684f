import ScriptHost.Engine.Coerce

/-!
# Writing properties

* `writeElement`: sets a number of a list;
* `defineOn`: gives an object a property as a descriptor says;
* `setFrom`: assigns to a property, where a setter or a fixed property may be inherited;
* `deleteOn`, `setPrototypeOn`, `preventExtensionsOn`: the other changes;
* `ownKeysOf`: the keys of an object, which the handler of a proxy may choose.

A change that fails gives its fault; `demand` throws it.
-/

namespace ScriptHost

/-! ### Faults -/

/-- Throws the fault of a change, if it has one. -/
def demand (change : Script (Option PropertyFault)) : Script Unit := do
  match ← change with
  | none => return
  | some fault => throwType fault.message

/-- Whether a change has no fault. -/
def succeeds (change : Script (Option PropertyFault)) : Script Bool := do
  return (← change).isNone

/-! ### The length of an array -/

/-- Throws the error of a length that no array can have. -/
def badLength {α : Type} : Script α := throwNew .rangeError "invalid array length"

/-- A whole number as the length of an array. -/
def lengthOfInt (n : Int) : Script Nat :=
  if 0 ≤ n && n < twoTo 32 then return n.toNat else badLength

/-- A number as the length of an array. -/
def lengthOfNumber (d : Double) : Script Nat :=
  match d.toInt? with
  | some n => lengthOfInt n
  | none => badLength

/-- A value as the length of an array.  What is no number is asked twice, and must be the same
length both times. -/
def toArrayLength (v : Value) : Script Nat := do
  match v with
  | .bool b => return if b then 1 else 0
  | .null => return 0
  | .number d => lengthOfNumber d
  | .bigint n => lengthOfInt n
  | v => do
    let first := (← toNumber v).wrap 32
    let n ← lengthOfNumber (← toNumber v)
    if n = first then return n else badLength

/-- Sets the length of an array. -/
def setLength (r : Ref) (v : Value) : Script (Option PropertyFault) := do
  let n ← toArrayLength v
  let o ← readObject r
  match o.kind with
  | .array length fixed =>
    if fixed then return some (.readOnly "length")
    else
      let least ← Computation.look (.lengthFor r length n)
      Computation.change (.resize r n)
      return if n < least then some .stuckItem else none
  | _ => return none

/-- Keeps the length of an array from being written. -/
def fixLength (r : Ref) : Script Unit := .change (.fixLength r)

/-! ### Descriptors -/

/-- A new object that tells what a definition says. -/
def Descriptor.toValue (d : Descriptor) : Script Value :=
  let flag (name : String) (b : Option Bool) : List (String × Value) :=
    (b.map fun b => (name, Value.bool b)).toList
  let part (name : String) (v : Option Value) : List (String × Value) :=
    (v.map fun v => (name, v)).toList
  newRecord (part "value" d.value ++ flag "writable" d.writable ++ part "get" d.getter
    ++ part "set" d.setter ++ flag "enumerable" d.enumerable ++ flag "configurable" d.configurable)

/-- What an object has under a key, if it has something. -/
def optionalPart (r : Ref) (key : String) : Script (Option Value) := do
  if ← hasProperty r key then return some (← getOf r key) else return none

/-- The definition that an object tells. -/
def toDescriptor (v : Value) : Script Descriptor := do
  let r ← requireObject v PropertyFault.notObject.message
  descriptorOf (optionalPart r)

/-! ### Numbers in buffers -/

/-- What a buffer holds. -/
def readStore (buffer : Ref) : Script ByteStore := do return (← readObject buffer).store

/-- Changes what a buffer holds. -/
def modifyStore (buffer : Ref) (f : ByteStore → ByteStore) : Script Unit := do
  become buffer (.buffer (f (← readStore buffer)))

/-- Sets some bytes of a buffer. -/
def writeBytes (buffer : Ref) (start : Nat) (new : List UInt8) : Script Unit :=
  modifyStore buffer fun s => { s with bytes := putBytes start new s.bytes }

/-- Sets the number at a place of a list, as long as the list has that place. -/
def writeElement (t : ElementType) (buffer : Ref) (offset : Nat) (length : Option Nat) (i : Nat)
    (v : Value) : Script Unit := do
  if i < (Extent.mk t.width offset length).count (← readStore buffer) then
    writeBytes buffer (offset + i * t.width) (t.toBytes v)

/-! ### Definitions -/

/-- A value as a number of a list: what it is kept as. -/
def toElement (t : ElementType) (v : Value) : Script Value := do
  if t.isBig then return .bigint (← toBigInt v) else return .number (← toNumber v)

/-- Defines a number of a list. -/
def defineElement (t : ElementType) (buffer : Ref) (offset : Nat) (length : Option Nat) (d : Double)
    (desc : Descriptor) : Script (Option PropertyFault) := do
  match d.placeBelow? ((Extent.mk t.width offset length).count (← readStore buffer)) with
  | none =>
    if d.toInt?.isNone then return some .notWhole
    else if d.negative then return some .negative
    else return some .outOfBounds
  | some i =>
    if desc.isAccessor || desc.writable = some false || desc.enumerable = some false
        || desc.configurable = some false then
      return some .badFlags
    else
      match desc.value with
      | some v => writeElement t buffer offset length i (← toElement t v)
      | none => pure ()
      return none

/-- Defines the length of an array. -/
def defineLength (r : Ref) (fixed : Bool) (desc : Descriptor) : Script (Option PropertyFault) := do
  if desc.isAccessor || desc.configurable = some true || desc.enumerable = some true
      || (fixed && desc.writable = some true) then
    return some .notConfigurable
  else
    let fault ← match desc.value with
      | some v => setLength r v
      | none => pure none
    if fault.isNone && desc.writable = some false then fixLength r
    return fault

/-- Defines a property that an object keeps. -/
def defineStored (r : Ref) (key : Key) (desc : Descriptor) : Script (Option PropertyFault) := do
  let fault ← Computation.look (.definitionFault r key desc)
  Computation.change (.define r key desc)
  return fault

/-- Gives an object a property as a descriptor says. -/
def defineFrom : Nat → Ref → Key → Descriptor → Script (Option PropertyFault)
  | 0, _, _, _ => stackExceeded
  | fuel + 1, r, key, desc => do
    let o ← readObject r
    match o.kind with
    | .proxy target handler revoked =>
      match ← trap? (getOf handler "defineProperty") revoked with
      | none => defineFrom fuel target key desc
      | some f =>
        let v ← call f (.object handler) [.object target, key.toValue, ← desc.toValue]
        if !v.truthy then return some (.refused "defineProperty exception")
        else
          let kept ← ownProperty target key
          if desc.mayFollow kept (← readObject target).extensible then return none
          else throwType "proxy: inconsistent defineProperty"
    | .array _ fixed =>
      if key = "length" then defineLength r fixed desc else defineStored r key desc
    | .elements t buffer offset length =>
      match key.numeric? with
      | some d => defineElement t buffer offset length d desc
      | none => defineStored r key desc
    | _ => defineStored r key desc

/-- Gives an object a property as a descriptor says. -/
def defineOn (r : Ref) (key : Key) (desc : Descriptor) : Script (Option PropertyFault) := do
  defineFrom (← chainLimit) r key desc

/-- Gives an object a property like one that an assignment makes. -/
def createProperty (r : Ref) (key : Key) (v : Value) : Script Unit :=
  demand (defineOn r key (.plain v))

/-! ### Assignments -/

/-- Gives the receiver of an assignment a property of its own. -/
def createOn (receiver : Value) (key : Key) (v : Value) : Script (Option PropertyFault) := do
  match receiver with
  | .object r => do
    if !(← readObject r).extensible then return some .notExtensible
    else
      match ← ownProperty r key with
      | none => defineOn r key (.plain v)
      | some p =>
        if p.isAccessor then return some .forbiddenSetter
        else if !p.attributes.writable then return some (.readOnly key)
        else defineOn r key { value := some v }
  | _ => return some .notObject

/-- Calls a setter for a receiver. -/
def callSetter (setter receiver v : Value) : Script (Option PropertyFault) := do
  match setter with
  | .undefined => return some .noSetter
  | f => do
    let _ ← call f receiver [v]
    return none

/-- Assigns to a property that an object itself has. -/
def setStored (r : Ref) (p : Property) (key : Key) (v receiver : Value) :
    Script (Option PropertyFault) := do
  match p.content with
  | .accessor _ setter => callSetter setter receiver v
  | .data _ =>
    let o ← readObject r
    if o.isArray && key = "length" && receiver = .object r then setLength r v
    else if !p.attributes.writable then return some (.readOnly key)
    else if receiver = .object r then
      Computation.change (.write r key v)
      return none
    else createOn receiver key v

/-- Assigns to a number of a list.  Beyond its end nothing happens. -/
def setElement (r : Ref) (t : ElementType) (buffer : Ref) (offset : Nat) (length : Option Nat)
    (d : Double) (key : Key) (v receiver : Value) : Script (Option PropertyFault) := do
  match d.placeBelow? ((Extent.mk t.width offset length).count (← readStore buffer)) with
  | some i =>
    if receiver = .object r then
      writeElement t buffer offset length i (← toElement t v)
      return none
    else createOn receiver key v
  | none =>
    let _ ← toElement t v
    return none

/-- Assigns to a property of an object or of what it inherits from, for a receiver. -/
def setFrom : Nat → Ref → Key → Value → Value → Script (Option PropertyFault)
  | 0, _, _, _, _ => stackExceeded
  | fuel + 1, r, key, v, receiver => do
    let o ← readObject r
    let inherited : Script (Option PropertyFault) := do
      match ← readOwn r key with
      | some p => setStored r p key v receiver
      | none =>
        match o.prototype with
        | some parent => setFrom fuel parent key v receiver
        | none => createOn receiver key v
    match o.kind with
    | .proxy target handler revoked =>
      match ← trap? (getOf handler "set") revoked with
      | none => setFrom fuel target key v receiver
      | some f =>
        let answer ← call f (.object handler) [.object target, key.toValue, v, receiver]
        if !answer.truthy then return some (.refused "cannot set property")
        else if (← ownProperty target key).all fun p => p.allowsWrite v then return none
        else throwType "proxy: inconsistent set"
    | .elements t buffer offset length =>
      match key.numeric? with
      | some d => setElement r t buffer offset length d key v receiver
      | none => inherited
    | _ => inherited

/-- Assigns to a property of an object. -/
def setOn (r : Ref) (key : Key) (v : Value) : Script (Option PropertyFault) := do
  setFrom (← chainLimit) r key v (.object r)

/-- Assigns to a property of a value. -/
def setProperty (target : Value) (key : Key) (v : Value) : Script Unit :=
  match target with
  | .undefined => throwType ("cannot set property '" ++ key.shown ++ "' of undefined")
  | .null => throwType ("cannot set property '" ++ key.shown ++ "' of null")
  | .object r => demand (setOn r key v)
  | .string t => demand do
    if key = "length" then return some (.readOnly key)
    else if (key.index?.bind t.unitAt?).isSome then return some .notObject
    else setFrom (← chainLimit) Family.text.prototype key v target
  | target => demand do
    match Family.ofPrimitive? target with
    | some f => setFrom (← chainLimit) f.prototype key v target
    | none => return none

/-! ### Removal -/

/-- Removes a property of an object; false if it has to stay. -/
def deleteFrom : Nat → Ref → Key → Script Bool
  | 0, _, _ => stackExceeded
  | fuel + 1, r, key => do
    let o ← readObject r
    match o.kind with
    | .proxy target handler revoked =>
      match ← trap? (getOf handler "deleteProperty") revoked with
      | none => deleteFrom fuel target key
      | some f =>
        if !(← call f (.object handler) [.object target, key.toValue]).truthy then return false
        else
          match ← ownProperty target key with
          | none => return true
          | some p =>
            if p.attributes.configurable && (← canExtend target) then return true
            else throwType "proxy: inconsistent deleteProperty"
    | .elements t buffer offset length =>
      match key.numeric? with
      | some d =>
        let count := (Extent.mk t.width offset length).count (← readStore buffer)
        return (d.placeBelow? count).isNone
      | none => removeStored r key
    | _ => removeStored r key
where
  /-- Removes a property that an object keeps. -/
  removeStored (r : Ref) (key : Key) : Script Bool := do
    match ← readOwn r key with
    | none => return true
    | some p =>
      if p.attributes.configurable then
        Computation.change (.drop r key)
        return true
      else return false

def deleteOn (r : Ref) (key : Key) : Script Bool := do deleteFrom (← chainLimit) r key

/-- Removes a property that must not stay. -/
def deleteForSure (r : Ref) (key : Key) : Script Unit := do
  if ← deleteOn r key then return else throwType "could not delete property"

/-! ### Prototypes -/

/-- Sets the prototype of an object. -/
def setPrototypeFrom : Nat → Ref → Option Ref → Script (Option PropertyFault)
  | 0, _, _ => stackExceeded
  | fuel + 1, r, parent => do
    let o ← readObject r
    match o.kind with
    | .proxy target handler revoked =>
      match ← trap? (getOf handler "setPrototypeOf") revoked with
      | none => setPrototypeFrom fuel target parent
      | some f =>
        let v ← call f (.object handler) [.object target, .ofRef? parent]
        if !v.truthy then return some (.refused "bad prototype")
        else if ← canExtend target then return none
        else if (← prototypeOf target) = parent then return none
        else throwType "proxy: inconsistent prototype"
    | _ =>
      if o.prototype = parent then return none
      else
        let fault ← Computation.look (.prototypeFault r parent)
        Computation.change (.inherit r parent)
        return fault

def setPrototypeOn (r : Ref) (parent : Option Ref) : Script (Option PropertyFault) := do
  setPrototypeFrom (← chainLimit) r parent

/-! ### Extensions -/

/-- Keeps an object from getting new properties; false if it does not let that happen. -/
def preventFrom : Nat → Ref → Script Bool
  | 0, _ => stackExceeded
  | fuel + 1, r => do
    let o ← readObject r
    match o.kind with
    | .proxy target handler revoked =>
      match ← trap? (getOf handler "preventExtensions") revoked with
      | none => preventFrom fuel target
      | some f =>
        if !(← call f (.object handler) [.object target]).truthy then return false
        else if ← canExtend target then throwType "proxy: inconsistent preventExtensions"
        else return true
    | _ =>
      Computation.change (.preventExtensions r)
      return true

def preventExtensionsOn (r : Ref) : Script Bool := do preventFrom (← chainLimit) r

/-! ### Keys -/

/-- The keys that a list names, each a text or a symbol. -/
def keysOf : List Value → Script (List Key)
  | [] => return []
  | .string t :: rest => do return .text t :: (← keysOf rest)
  | .symbol s :: rest => do return .symbol s :: (← keysOf rest)
  | _ :: _ => throwType "proxy: properties must be strings or symbols"

/-- The items of a list, so many from an index on. -/
def itemsFrom (v : Value) : Nat → Nat → Script (List Value)
  | 0, _ => return []
  | n + 1, i => do
    let w ← getProperty v (.item i)
    return w :: (← itemsFrom v n (i + 1))

/-- Checks the keys that a handler tells against those of its target: none twice, all that cannot be
removed, and no others if there can be no others. -/
def checkKeys (told : List Key) (kept : Script (List Key)) (target : Ref) : Script Unit := do
  if !decide told.Nodup then throwType "proxy: duplicate property"
  let extensible ← canExtend target
  let kept ← kept
  kept.forM fun key => do
    match ← ownProperty target key with
    | some p =>
      if (!p.attributes.configurable || !extensible) && !told.contains key then
        throwType "proxy: target property must be present in proxy ownKeys"
    | none => return
  if !extensible && !told.all kept.contains then
    throwType "proxy: property not present in target were returned by non extensible proxy"

/-- The keys of an object itself. -/
def ownKeysFrom : Nat → Ref → Script (List Key)
  | 0, _ => stackExceeded
  | fuel + 1, r => do
    let o ← readObject r
    match o.kind with
    | .proxy target handler revoked =>
      match ← trap? (getOf handler "ownKeys") revoked with
      | none => ownKeysFrom fuel target
      | some f =>
        let list ← call f (.object handler) [.object target]
        let told ← keysOf (← itemsFrom list (← toLength (← getNamed list "length")) 0)
        checkKeys told (ownKeysFrom fuel target) target
        return told
    | _ => .look (.keys r)

def ownKeysOf (r : Ref) : Script (List Key) := do ownKeysFrom (← chainLimit) r

/-- The textual keys of an object itself that show in listings. -/
def shownKeysOf (r : Ref) : Script (List Key) := do
  let keys ← ownKeysOf r
  (keys.filter Key.isText).filterM fun key => do
    return (← ownProperty r key).any fun p => p.attributes.enumerable

end ScriptHost
