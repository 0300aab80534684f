import ScriptHost.Library.Iteration

/-!
# What all objects can do

* `describeObject`: the text that every object has, which names what it is;
* `freezeObject`, `isStill`: objects that cannot change any more;
* `listOwn`, `copyProperties`, `defineAll`: what goes through the properties of an object;
* `ObjectMethod.run`: the functions of `Object` and the methods of all objects.
-/

namespace ScriptHost

/-! ### Texts -/

/-- The word for what an object is, if it does not choose one itself. -/
def Object.word (o : Object) : String :=
  match o.kind with
  | .array .. => "Array"
  | .function _ => "Function"
  | .error => "Error"
  | .arguments => "Arguments"
  | .boxed (.bool _) => "Boolean"
  | .boxed (.number _) => "Number"
  | .boxed (.string _) => "String"
  | .date _ => "Date"
  | .regexp .. => "RegExp"
  | _ => "Object"

/-- The text that names what a value is. -/
def describeObject (v : Value) : Script Value := do
  match v with
  | .undefined => return .ofString "[object Undefined]"
  | .null => return .ofString "[object Null]"
  | v => do
    let r ← toObject v
    let word ← if ← isArray (.object r) then pure "Array"
      else if ← isCallable (.object r) then pure "Function"
      else pure (← readObject r).word
    match ← getFrom (← chainLimit) r (.object r) (.known .toStringTag) with
    | .string t => return .string (.unicode "[object " ++ t ++ .unicode "]")
    | _ => return .ofString ("[object " ++ word ++ "]")

/-! ### Still objects -/

/-- Keeps an object and all its properties from changing, or only from being removed. -/
def holdStill (r : Ref) (writing : Bool) : Script Unit := do
  if !(← preventExtensionsOn r) then throwType "proxy preventExtensions handler returned false"
  for key in ← ownKeysOf r do
    let own ← if writing then ownProperty r key else pure none
    demand (defineOn r key
      { configurable := some false
        writable := if own.any fun p => p.attributes.writable then some false else none })

/-- Freezes an object. -/
def freezeObject (r : Ref) : Script Unit := holdStill r true

/-- Whether an object and all its properties are kept from changing, or from being removed. -/
def isStill (r : Ref) (writing : Bool) : Script Bool := do
  for key in ← ownKeysOf r do
    match ← ownProperty r key with
    | some p =>
      if p.attributes.configurable || (writing && p.attributes.writable) then return false
    | none => pure ()
  return !(← canExtend r)

/-! ### Listings -/

/-- Whether a property of an object itself shows in listings. -/
def shows (r : Ref) (key : Key) : Script Bool := do
  return (← ownProperty r key).any fun p => p.attributes.enumerable

/-- The own properties of a value that show, as a listing tells them. -/
def listOwn (v : Value) (listing : Listing) : Script Value := do
  let r ← toObject v
  let mut items := #[]
  for key in (← ownKeysOf r).filter Key.isText do
    if ← shows r key then
      let item ← match listing with
        | .keys => pure key.toValue
        | l => do listed l key.toValue (← getOf r key)
      items := items.push (some item)
  newArray items

/-- Copies the own properties of a value that show, as assignments do.  Those that show at the start
count, but a proxy is asked again each time. -/
def copyProperties (target : Ref) (source : Value) : Script Unit := do
  if source.isNullish then return
  let r ← toObject source
  let keys ← ownKeysOf r
  if (← readObject r).isProxy then
    for key in keys do
      if ← shows r key then setProperty (.object target) key (← getOf r key)
  else
    for key in ← keys.filterM (shows r) do
      setProperty (.object target) key (← getOf r key)

/-- Gives an object the properties that another object describes by what shows at the start. -/
def defineAll (r : Ref) (descriptions : Value) : Script Unit := do
  let d ← toObject descriptions
  for key in ← (← ownKeysOf d).filterM (shows d) do
    let desc ← toDescriptor (← getOf d key)
    demand (defineOn r key desc)

/-- The description of a property, or undefined. -/
def describeProperty (p : Option Property) : Script Value :=
  match p with
  | some p => (Descriptor.ofProperty p).toValue
  | none => return .undefined

/-! ### Prototypes -/

/-- A value as the prototype of an object. -/
def requirePrototype (v : Value) : Script (Option Ref) :=
  match v with
  | .null => return none
  | .object r => return some r
  | _ => throwType "not an object"

/-- Sets the prototype of a value; only that of an object changes. -/
def assignPrototype (v parent : Value) : Script Unit := do
  if v.isNullish then throwType "not an object"
  let parent ← requirePrototype parent
  match v with
  | .object r => demand (setPrototypeOn r parent)
  | _ => return

/-- The prototype of a value. -/
def readPrototype (v : Value) : Script Value := do
  match v with
  | .object r => return .ofRef? (← prototypeOf r)
  | v =>
    match Family.ofPrimitive? v with
    | some f => return .object f.prototype
    | none => throwType "not an object"

/-- Whether an object is met on the way up from another. -/
def isAbove (above : Ref) : Nat → Ref → Script Bool
  | 0, _ => stackExceeded
  | fuel + 1, r => do
    match ← prototypeOf r with
    | some parent => if parent = above then return true else isAbove above fuel parent
    | none => return false

/-- The getter or the setter that a key leads to. -/
def lookUpAccessor (key : Key) (setter : Bool) : Nat → Ref → Script Value
  | 0, _ => stackExceeded
  | fuel + 1, r => do
    match ← ownProperty r key with
    | some ⟨.accessor g s, _⟩ => return if setter then s else g
    | some _ => return .undefined
    | none =>
      match ← prototypeOf r with
      | some parent => lookUpAccessor key setter fuel parent
      | none => return .undefined

/-- Gives an object a getter or a setter. -/
def defineAccessor (this key f : Value) (setter : Bool) : Script Value := do
  let r ← toObject this
  requireFunction f
  let key ← toKey key
  let part : Descriptor := if setter then { setter := some f } else { getter := some f }
  demand (defineOn r key { part with enumerable := some true, configurable := some true })
  return .undefined

/-! ### Groups -/

/-- Groups with a value added to the one under a key. -/
def addToGroup (key : Key) (v : Value) : List (Key × List Value) → List (Key × List Value)
  | [] => [(key, [v])]
  | (k, vs) :: rest => if k = key then (k, vs ++ [v]) :: rest else (k, vs) :: addToGroup key v rest

/-- The values that an object gives, in lists by what a function says of them. -/
def groupValues (items f : Value) : Script Value := do
  requireFunction f
  let (_, groups) ← iterate items (0, []) fun (i, groups) v => do
    let key ← toKey (← call f .undefined [v, .ofNat i])
    return (true, i + 1, addToGroup key v groups)
  let r ← newPlain none
  for (key, vs) in groups do
    createProperty r key (← newList vs)
  return .object r

/-- A new object with the properties that pairs of keys and values tell. -/
def objectOfEntries (items : Value) : Script Value := do
  let r ← newObject
  let _ ← iterate items () fun _ entry => do
    let e ← requireObject entry "not an object"
    let key ← getOf e "0"
    let v ← getOf e "1"
    createProperty r (← toKey key) v
    return (true, ())
  return .object r

/-! ### Methods -/

/-- What a function of `Object` or a method of all objects does. -/
def ObjectMethod.run (f : ObjectMethod) (this : Value) (args : List Value) : Script Value :=
  let first := argument args 0
  let second := argument args 1
  let third := argument args 2
  match f with
  | .create => do
    let parent ← match first with
      | .null => pure none
      | .object r => pure (some r)
      | _ => throwType "object prototype may only be an Object or null"
    let r ← newPlain parent
    if second != .undefined then defineAll r second
    return .object r
  | .getPrototypeOf => readPrototype first
  | .setPrototypeOf => do
    assignPrototype first second
    return first
  | .defineProperty => do
    let r ← requireObject first "not an object"
    let key ← toKey second
    let desc ← toDescriptor third
    demand (defineOn r key desc)
    return first
  | .defineProperties => do
    defineAll (← requireObject first "not an object") second
    return first
  | .getOwnPropertyNames => do
    let keys ← ownKeysOf (← toObject first)
    newList ((keys.filter Key.isText).map Key.toValue)
  | .getOwnPropertySymbols => do
    let keys ← ownKeysOf (← toObject first)
    newList ((keys.filter fun k => !k.isText).map Key.toValue)
  | .groupBy => groupValues first second
  | .keys => listOwn first .keys
  | .values => listOwn first .values
  | .entries => listOwn first .entries
  | .isExtensible =>
    match first with
    | .object r => do return .bool (← canExtend r)
    | _ => return .bool false
  | .preventExtensions =>
    match first with
    | .object r => do
      if ← preventExtensionsOn r then return first
      else throwType "proxy preventExtensions handler returned false"
    | v => return v
  | .getOwnPropertyDescriptor => do
    let r ← toObject first
    describeProperty (← ownProperty r (← toKey second))
  | .getOwnPropertyDescriptors => do
    let r ← toObject first
    let result ← newObject
    for key in ← ownKeysOf r do
      match ← ownProperty r key with
      | some p => createProperty result key (← describeProperty (some p))
      | none => pure ()
    return .object result
  | .sameValue => return .bool (first.same second)
  | .assign => do
    let r ← toObject first
    for source in args.drop 1 do
      copyProperties r source
    return .object r
  | .sealUp =>
    match first with
    | .object r => do
      holdStill r false
      return first
    | v => return v
  | .freeze =>
    match first with
    | .object r => do
      freezeObject r
      return first
    | v => return v
  | .isSealed =>
    match first with
    | .object r => do return .bool (← isStill r false)
    | _ => return .bool true
  | .isFrozen =>
    match first with
    | .object r => do return .bool (← isStill r true)
    | _ => return .bool true
  | .fromEntries => objectOfEntries first
  | .hasOwn => do
    let r ← toObject first
    return .bool (← ownProperty r (← toKey second)).isSome
  | .toText => describeObject this
  | .toLocaleText => callMethod this "toString" []
  | .valueOf => do return .object (← toObject this)
  | .hasOwnProperty => do
    let key ← toKey first
    return .bool (← ownProperty (← toObject this) key).isSome
  | .isPrototypeOf =>
    match first with
    | .object r => do
      let above ← toObject this
      return .bool (← isAbove above (← chainLimit) r)
    | _ => return .bool false
  | .propertyIsEnumerable => do
    let r ← toObject this
    let key ← toKey first
    return .bool ((← ownProperty r key).any fun p => p.attributes.enumerable)
  | .protoGetter => do return .ofRef? (← prototypeOf (← toObject this))
  | .protoSetter => do
    if this.isNullish then throwType "not an object"
    match first with
    | .null | .object _ => assignPrototype this first
    | _ => pure ()
    return .undefined
  | .defineGetter => defineAccessor this first second false
  | .defineSetter => defineAccessor this first second true
  | .lookupGetter => do
    let r ← toObject this
    lookUpAccessor (← toKey first) false (← chainLimit) r
  | .lookupSetter => do
    let r ← toObject this
    lookUpAccessor (← toKey first) true (← chainLimit) r

end ScriptHost
