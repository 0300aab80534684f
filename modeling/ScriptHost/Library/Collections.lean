import ScriptHost.Library.Functions

/-!
# Maps and sets

* `makeCollection`: a new map or set;
* `CollectionMethod.run`: the methods of maps and sets.

An entry that is removed leaves a gap, so that whoever walks through the entries keeps his place.
-/

namespace ScriptHost

/-- Entries in the order in which they came; removed ones leave a gap. -/
abbrev Entries := Array (Option (Value × Value))

namespace Entries

/-- The place of a key. -/
def find? (es : Entries) (key : Value) : Option Nat :=
  es.findIdx? fun e => e.any fun (k, _) => k.sameZero key

/-- The value under a key. -/
def get? (es : Entries) (key : Value) : Option Value :=
  ((es.find? key).bind fun i => (es[i]?).join).map Prod.snd

/-- The entries with one set; a new one comes last. -/
def put (es : Entries) (key v : Value) : Entries :=
  match es.find? key with
  | some i => es.setIfInBounds i (some (key, v))
  | none => es.push (some (key, v))

/-- The number of entries. -/
def count (es : Entries) : Nat := (es.filter Option.isSome).size

end Entries

/-- The entries of a collection of a class. -/
def collectionEntries (c : CollectionClass) (this : Value) : Script (Ref × Entries) := do
  match this with
  | .object r =>
    match (← readObject r).kind with
    | .collection d es => if c = d then return (r, es) else wrong
    | _ => wrong
  | _ => wrong
where
  /-- The complaint about another receiver. -/
  wrong {α : Type} : Script α := throwType (c.name ++ " object expected")

/-- Sets the entries of a collection. -/
def writeEntries (c : CollectionClass) (r : Ref) (es : Entries) : Script Unit :=
  become r (.collection c es)

/-- A key as it is kept: there is one zero, and weak keys are objects, or symbols that not all
scripts share. -/
def keptKey (c : CollectionClass) (key : Value) : Script Value :=
  match key with
  | .symbol (.registered _) =>
    if c.isWeak then throwType ("invalid value used as " ++ c.name ++ " key") else return key
  | .object _ | .symbol _ => return key
  | .number d =>
    if c.isWeak then throwType ("invalid value used as " ++ c.name ++ " key")
    else return .number (if d.isZero then .zero false else d)
  | key =>
    if c.isWeak then throwType ("invalid value used as " ++ c.name ++ " key") else return key

/-- Calls a function for each entry, also for those that come meanwhile. -/
def forEachEntry (c : CollectionClass) (this f receiver : Value) : Nat → Nat → Script Unit
  | 0, _ => timeUp
  | fuel + 1, i => do
    let (_, es) ← collectionEntries c this
    match entryFrom? es (es.size + 1) i with
    | none => return
    | some (i, k, v) =>
      let _ ← call f receiver [v, k, this]
      forEachEntry c this f receiver fuel (i + 1)

/-- What walks through the entries of a collection. -/
def walkEntries (c : CollectionClass) (this : Value) (listing : Listing) : Script Value := do
  let (r, _) ← collectionEntries c this
  newWalk (if c.isMap then .map else .set) (.entries r 0 listing)

/-! ### Sets and other sets -/

/-- Something that can be asked like a set: how many keys it has, and how to ask it for one and for
all of them. -/
structure SetLike where
  object : Value
  size : Double
  has : Value
  keys : Value

/-- The function under a key of something that is asked like a set. -/
def setFunction (v : Value) (name : String) : Script Value := do
  match ← getNamed v name with
  | .undefined => throwType ("." ++ name ++ " is undefined")
  | f => if ← isCallable f then return f else throwType ("." ++ name ++ " is not a function")

/-- A value that is asked like a set. -/
def setLikeOf (v : Value) : Script SetLike := do
  let size ← match ← getNamed v "size" with
    | .undefined => throwType ".size is undefined"
    | w => toNumber w
  if size.isNaN then throwType ".size is not a number"
  return ⟨v, size, ← setFunction v "has", ← setFunction v "keys"⟩

namespace SetLike

/-- Whether there is a key. -/
def asks (s : SetLike) (key : Value) : Script Bool := do return (← call s.has s.object [key]).truthy

/-- Whether there are at least so many keys. -/
def hasCount (s : SetLike) (n : Nat) : Bool := !s.size.lt (.ofInt n)

/-- Goes on with each key. -/
def walk {σ : Type} (s : SetLike) (start : σ) (step : σ → Value → Script (Bool × σ)) :
    Script σ := do
  let iterator ← call s.keys s.object []
  let _ ← requireObject iterator "not an object"
  iterateFrom iterator (← getProperty iterator "next") step maxValues start

end SetLike

/-- Goes on with each key of a set, also with those that come meanwhile. -/
def walkSet {σ : Type} (this : Value) (step : σ → Value → Script (Bool × σ)) :
    Nat → Nat → σ → Script σ
  | 0, _, _ => timeUp
  | fuel + 1, i, s => do
    let (_, es) ← collectionEntries .set this
    match entryFrom? es (es.size + 1) i with
    | none => return s
    | some (i, k, _) =>
      let (more, s) ← step s k
      if more then walkSet this step fuel (i + 1) s else return s

/-- A new set with some entries. -/
def newSet (es : Entries) : Script Value := newOf (.collection .set) (.collection .set es)

/-- The entries without those under a key. -/
def Entries.without (es : Entries) (key : Value) : Entries :=
  es.filter fun e => !(e.any fun (k, _) => k.sameZero key)

/-- The entries with a key in a set; there is one zero. -/
def Entries.with (es : Entries) (key : Value) : Script Entries := do
  let key ← keptKey .set key
  return es.put key key

/-- Whether a set still has a key. -/
def setHas (this key : Value) : Script Bool := do
  let (_, es) ← collectionEntries .set this
  return (es.find? key).isSome

/-- What a method of sets does with something else that is asked like a set. -/
def compareSets (f : CollectionMethod) (this : Value) (es : Entries) (other : SetLike) :
    Script Value :=
  let fewer := other.hasCount es.count
  let each {σ : Type} (start : σ) (step : σ → Value → Script (Bool × σ)) : Script σ :=
    walkSet this step maxValues 0 start
  match f with
  | .isDisjointFrom => do
    if fewer then
      return .bool (← each true fun _ k => do
        let free := !(← other.asks k)
        return (free, free))
    else
      return .bool (← other.walk true fun _ k => do
        let free := !(← setHas this k)
        return (free, free))
  | .isSubsetOf => do
    if !fewer then return .bool false
    else
      return .bool (← each true fun _ k => do
        let found ← other.asks k
        return (found, found))
  | .isSupersetOf => do
    if (Double.ofInt es.count).lt other.size then return .bool false
    else
      return .bool (← other.walk true fun _ k => do
        let found ← setHas this k
        return (found, found))
  | .intersection => do
    let start : Entries := #[]
    let common ← if fewer then
        each start fun acc k => do
          if ← other.asks k then return (true, ← acc.with k) else return (true, acc)
      else
        other.walk start fun acc k => do
          if ← setHas this k then return (true, ← acc.with k) else return (true, acc)
    newSet common
  | .difference => do
    let rest ← if fewer then
        each es fun acc k => do
          if ← other.asks k then return (true, acc.without k) else return (true, acc)
      else other.walk es fun acc k => return (true, acc.without k)
    newSet rest
  | .symmetricDifference => do
    newSet (← other.walk es fun acc k => do
      if ← setHas this k then return (true, acc.without k) else return (true, ← acc.with k))
  | .union => do
    newSet (← other.walk es fun acc k => do return (true, ← acc.with k))
  | _ => return .undefined

/-! ### Methods -/

/-- What a method of maps or sets does. -/
def CollectionMethod.run (f : CollectionMethod) (c : CollectionClass) (this : Value)
    (args : List Value) : Script Value := do
  let (r, es) ← collectionEntries c this
  let key := argument args 0
  match f with
  | .set =>
    writeEntries c r (es.put (← keptKey c key) (argument args 1))
    return this
  | .add =>
    let key ← keptKey c key
    writeEntries c r (es.put key key)
    return this
  | .get => return (es.get? key).getD .undefined
  | .has => return .bool (es.find? key).isSome
  | .delete =>
    match es.find? key with
    | some i =>
      writeEntries c r (es.setIfInBounds i none)
      return .bool true
    | none => return .bool false
  | .clear =>
    writeEntries c r (es.map fun _ => none)
    return .undefined
  | .size => return .ofNat es.count
  | .forEach =>
    requireFunction key
    forEachEntry c this key (argument args 1) maxValues 0
    return .undefined
  | .isDisjointFrom | .isSubsetOf | .isSupersetOf | .intersection | .difference
  | .symmetricDifference | .union => do compareSets f this es (← setLikeOf key)
  | .values => walkEntries c this .values
  | .keys => walkEntries c this .keys
  | .entries => walkEntries c this .entries

/-- The values that an object gives, in lists in a map by what a function says of them. -/
def groupEntries (items f : Value) : Script Value := do
  requireFunction f
  let (_, groups) ← iterate items (0, (#[] : Array (Value × List Value))) fun (i, groups) v => do
    let key ← keptKey .map (← call f .undefined [v, .ofNat i])
    match groups.findIdx? fun (k, _) => k.sameZero key with
    | some j => return (true, i + 1, groups.modify j fun (k, vs) => (k, v :: vs))
    | none => return (true, i + 1, groups.push (key, [v]))
  let es ← groups.mapM fun (k, vs) => do return some (k, ← newList vs.reverse)
  newOf (.collection .map) (.collection .map es)

/-- A new map or set, with what an object gives. -/
def makeCollection (c : CollectionClass) (how : Invocation) (args : List Value) :
    Script Value := do
  let r ← newInstance how (.collection c) (.collection c #[])
  let this : Value := .object r
  let items := argument args 0
  if items.isNullish then return this
  let adder ← getOf r (if c.isMap then "set" else "add")
  if !(← isCallable adder) then throwType "set/add is not a function"
  let _ ← iterate items () fun _ item => do
    let _ ← if c.isMap then do
        let entry ← requireObject item "not an object"
        let k ← getOf entry "0"
        call adder this [k, ← getOf entry "1"]
      else call adder this [item]
    return (true, ())
  return this

end ScriptHost
