import ScriptHost.Engine.Writing

/-!
# Walking through items

* `iterate`: does something with each value that an object gives one by one;
* `iterated`: the list of these values;
* `IteratorMethod.run`: the methods of what walks through items.
-/

namespace ScriptHost

/-! ### Asking for values -/

/-- What gives the values of an object one by one. -/
def iteratorOf (v : Value) : Script Value := do
  let f ← getNamed v (.known .iterator)
  if ← isCallable f then
    match ← call f v [] with
    | .object r => return .object r
    | _ => throwType "not an object"
  else throwType "value is not iterable"

/-- The next value, if there is one. -/
def nextValue (iterator next : Value) : Script (Option Value) := do
  match ← call next iterator [] with
  | .object r =>
    if (← getOf r "done").truthy then return none else return some (← getOf r "value")
  | _ => throwType "iterator must return an object"

/-- Tells an iterator that no more values are wanted; its complaints do not count. -/
def closeIterator (iterator : Value) : Script Unit :=
  catchThrown
    (do
      let f ← getProperty iterator "return"
      if f.isNullish then return
      else
        let _ ← call f iterator [])
    fun _ => return

/-- Tells an iterator that no more values are wanted, if its complaints do count. -/
def leaveIterator (iterator : Value) : Script Unit := do
  let f ← getProperty iterator "return"
  if f.isNullish then return
  else
    let _ ← requireObject (← call f iterator []) "not an object"

/-- How many values are asked for before the time is up in any case. -/
def maxValues : Nat := 1000000

/-- Goes on with each value until there are no more or the answer is to stop. -/
def iterateFrom {σ : Type} (iterator next : Value) (step : σ → Value → Script (Bool × σ)) :
    Nat → σ → Script σ
  | 0, _ => timeUp
  | fuel + 1, s => do
    match ← nextValue iterator next with
    | none => return s
    | some v =>
      let (more, s) ← catchThrown (step s v) fun e => do
        closeIterator iterator
        throw (.thrown e)
      if more then iterateFrom iterator next step fuel s
      else
        leaveIterator iterator
        return s

/-- Goes on with each value that an object gives. -/
def iterate {σ : Type} (v : Value) (start : σ) (step : σ → Value → Script (Bool × σ)) :
    Script σ := do
  let iterator ← iteratorOf v
  iterateFrom iterator (← getProperty iterator "next") step maxValues start

/-- The values that an object gives. -/
def iterated (v : Value) : Script (List Value) := do
  let found ← iterate v #[] fun found v => return (true, found.push v)
  return found.toList

/-! ### Answers -/

/-- An answer to the question for the next value. -/
def iterationAnswer (v : Value) (done : Bool) : Script Value :=
  newRecord [("value", v), ("done", .bool done)]

/-- What a listing tells of a key and a value. -/
def listed (listing : Listing) (key value : Value) : Script Value :=
  match listing with
  | .keys => return key
  | .values => return value
  | .entries => newList [key, value]

/-- The complaint about a part of a buffer that is not there any more. -/
def outOfBuffer : String := "ArrayBuffer is detached or resized"

/-- The number of items that a walk through an object meets. -/
def walkLength (r : Ref) : Script Nat := do
  match (← readObject r).kind with
  | .elements t buffer offset length => do
    let e : Extent := ⟨t.width, offset, length⟩
    let s ← readStore buffer
    if e.isOut s then throwType outOfBuffer else return e.count s
  | _ => lengthOf (.object r)

/-- The first entry from a place on, with its place. -/
def entryFrom? (entries : Array (Option (Value × Value))) : Nat → Nat → Option (Nat × Value × Value)
  | 0, _ => none
  | fuel + 1, i =>
    match entries[i]? with
    | none => none
    | some none => entryFrom? entries fuel (i + 1)
    | some (some (k, v)) => some (i, k, v)

/-- The next value of a walk, and the walk from there. -/
def Walk.next : Walk → Script (Option Value × Walk)
  | .done => return (none, .done)
  | .items target i listing => do
    if i < (← walkLength target) then
      let v ← match listing with
        | .keys => pure (.ofNat i)
        | l => do listed l (.ofNat i) (← getOf target (.item i))
      return (some v, .items target (i + 1) listing)
    else return (none, .done)
  | .units t i =>
    match t.units.drop i with
    | [] => return (none, .done)
    | [u] => return (some (.string (.ofUnits [u])), .units t (i + 1))
    | u :: v :: _ =>
      if Units.isHigh u && Units.isLow v then
        return (some (.string (.ofUnits [u, v])), .units t (i + 2))
      else return (some (.string (.ofUnits [u])), .units t (i + 1))
  | .entries collection i listing => do
    match (← readObject collection).kind with
    | .collection _ all =>
      match entryFrom? all (all.size + 1) i with
      | some (i, k, v) =>
        return (some (← listed listing k v), .entries collection (i + 1) listing)
      | none => return (none, .done)
    | _ => return (none, .done)
  | .finds pattern t everywhere points => do
    match ← call (← getOf pattern "exec") (.object pattern) [.string t] with
    | .object found =>
      if everywhere then
        if (← toText (← getOf found "0")).isEmpty then
          let i ← toLength (← getOf pattern "lastIndex")
          setProperty (.object pattern) "lastIndex"
            (.ofNat (Units.placeAfter t.units.toArray points i))
        return (some (.object found), .finds pattern t everywhere points)
      else return (some (.object found), .done)
    | .null => return (none, .done)
    | _ => throwType "RegExp exec method must return an object or null"

/-- A new object that walks through items. -/
def newWalk (c : WalkClass) (w : Walk) : Script Value := newOf (.ofWalk c) (.iterator c w)

/-! ### Methods -/

/-- The next answer of an object that walks through items. -/
def walkOn (this : Value) (c : WalkClass) : Script Value := do
  match this with
  | .object r =>
    match (← readObject r).kind with
    | .iterator d w =>
      if d ≠ c then throwType (c.word ++ " object expected")
      else
        let (v, w) ← w.next
        become r (.iterator c w)
        iterationAnswer (v.getD .undefined) v.isNone
    | _ => throwType (c.word ++ " object expected")
  | _ => throwType (c.word ++ " object expected")

/-- The values that a computation has still to give, and what is left after a step. -/
def generatorStep (this : Value) (step : List Value → Script (Value × List Value)) :
    Script Value := do
  match this with
  | .object r =>
    match (← readObject r).kind with
    | .generator values =>
      let (answer, values) ← step values
      become r (.generator values)
      return answer
    | _ => throwType "not a generator"
  | _ => throwType "not a generator"

/-! ### Passing values on -/

/-- Does something; if it fails, no more values of the source are wanted. -/
def orClose {α : Type} (source : Value) (x : Script α) : Script α :=
  catchThrown x fun e => do
    closeIterator source
    throw (.thrown e)

/-- What a function makes of a value; if it fails, no more values are wanted. -/
def relayCall (source f v : Value) (index : Nat) : Script Value :=
  orClose source (call f .undefined [v, .ofNat index])

/-- What gives the values of an object, which may do that itself, and its method for that. -/
def innerIterator (v : Value) : Script (Value × Value) := do
  let _ ← requireObject v "not an object"
  let f ← getMethod v (.known .iterator)
  let iterator ← if f = .undefined then pure v else call f v []
  let _ ← requireObject iterator "not an object"
  return (iterator, ← getProperty iterator "next")

/-- The next value that is passed on, and what is to be done from there; so many values are asked
for at most. -/
def Relay.step (source next : Value) : Nat → Relay → Script (Option Value × Relay)
  | 0, _ => timeUp
  | _, .done => return (none, .done)
  | _, .take 0 => do
    leaveIterator source
    return (none, .done)
  | fuel + 1, .flatMap f i (some (inner, method)) => do
    match ← orClose source (nextValue inner method) with
    | some v => return (some v, .flatMap f i (some (inner, method)))
    | none => Relay.step source next fuel (.flatMap f i none)
  | fuel + 1, r => do
    match ← nextValue source next with
    | none => return (none, .done)
    | some v =>
      match r with
      | .drop (n + 1) => Relay.step source next fuel (.drop n)
      | .take (n + 1) => return (some v, .take n)
      | .filter f i =>
        if (← relayCall source f v i).truthy then return (some v, .filter f (i + 1))
        else Relay.step source next fuel (.filter f (i + 1))
      | .map f i => return (some (← relayCall source f v i), .map f (i + 1))
      | .flatMap f i none =>
        let made ← relayCall source f v i
        let inner ← orClose source (innerIterator made)
        Relay.step source next fuel (.flatMap f (i + 1) (some inner))
      | r => return (some v, r)

/-- What something passes on: where it lies, whose values with which method, and how. -/
def relayOf (this : Value) : Script (Ref × Value × Value × Relay) := do
  match this with
  | .object r =>
    match (← readObject r).kind with
    | .relay source next relay => return (r, source, next, relay)
    | _ => throwType "Iterator Helper object expected"
  | _ => throwType "Iterator Helper object expected"

/-- The next answer of something that passes values on; a failure ends it. -/
def relayOn (this : Value) : Script Value := do
  let (r, source, next, relay) ← relayOf this
  let leave (relay : Relay) : Script Unit := become r (.relay source next relay)
  leave .done
  let (v, relay) ← relay.step source next maxValues
  leave relay
  iterationAnswer (v.getD .undefined) v.isNone

/-- Something new that passes on the values of an object. -/
def newRelay (this : Value) (relay : Script Relay) : Script Value := do
  let _ ← requireObject this "Iterator object expected"
  let relay ← relay
  newOf .relay (.relay this (← getProperty this "next") relay)

/-! ### Wrapped iterators -/

/-- What something wraps that gives values one by one, with the method for that. -/
def wrappedOf (this : Value) : Script (Value × Value) := do
  match this with
  | .object r =>
    match (← readObject r).kind with
    | .wrapped source next => return (source, next)
    | _ => throwType "Iterator Wrap object expected"
  | _ => throwType "Iterator Wrap object expected"

/-! ### Methods that use up what they work on -/

/-- A number of values. -/
def valueCount (v : Value) : Script Nat := do
  let d ← toNumber v
  if d.isNaN || d.lt (.zero false) && !d.trunc.isZero then throwNew .rangeError "must be positive"
  else return (d.clampTo 0 maxLength).toNat

/-- Goes on with each value of an object that gives values itself. -/
def iterateThis {σ : Type} (this : Value) (start : σ) (step : σ → Value → Script (Bool × σ)) :
    Script σ := do
  let _ ← requireObject this "Iterator object expected"
  iterateFrom this (← getProperty this "next") step maxValues start

/-- A function that is given to a method. -/
def requireFunction (f : Value) : Script Unit := do
  if ← isCallable f then return else throwType "not a function"

/-- The first value, with its number, of which a function says yes. -/
def findIterated (this f : Value) (wanted : Bool) : Script (Option Value) := do
  requireFunction f
  let (_, found) ← iterateThis this (0, none) fun (i, _) v => do
    let answer ← call f .undefined [v, .ofNat i]
    if answer.truthy = wanted then return (false, i, some v) else return (true, i + 1, none)
  return found

/-- The values put together by a function, from the left. -/
def reduceIterated (this f : Value) (start : Option Value) : Script Value := do
  requireFunction f
  let (_, result) ← iterateThis this (0, start) fun (i, acc) v => do
    match acc with
    | none => return (true, i + 1, some v)
    | some w => return (true, i + 1, some (← call f .undefined [w, v, .ofNat i]))
  match result with
  | some v => return v
  | none => throwType "empty iterator"

/-- What a method of something that walks through items does. -/
def IteratorMethod.run (f : IteratorMethod) (this : Value) (args : List Value) : Script Value :=
  let first := argument args 0
  match f with
  | .next c => walkOn this c
  | .itself => return this
  | .toArray => do
    let found ← iterateThis this #[] fun found v => return (true, found.push v)
    newList found.toList
  | .forEach => do
    requireFunction first
    let _ ← iterateThis this 0 fun i v => do
      let _ ← call first .undefined [v, .ofNat i]
      return (true, i + 1)
    return .undefined
  | .every => do return .bool (← findIterated this first false).isNone
  | .any => do return .bool (← findIterated this first true).isSome
  | .find => do return (← findIterated this first true).getD .undefined
  | .reduce => reduceIterated this first args[1]?
  | .drop => newRelay this do return .drop (← valueCount first)
  | .take => newRelay this do return .take (← valueCount first)
  | .filter => newRelay this do
    requireFunction first
    return .filter first 0
  | .map => newRelay this do
    requireFunction first
    return .map first 0
  | .flatMap => newRelay this do
    requireFunction first
    return .flatMap first 0 none
  | .relayNext => relayOn this
  | .relayReturn => do
    let (r, source, method, relay) ← relayOf this
    let leave : Script Unit := become r (.relay source method .done)
    match relay with
    | .done => pure ()
    | .flatMap _ _ (some (inner, _)) =>
      leave
      orClose source (leaveIterator inner)
      leaveIterator source
    | _ =>
      leave
      leaveIterator source
    iterationAnswer .undefined true
  | .wrappedNext => do
    let (source, method) ← wrappedOf this
    let v ← nextValue source method
    iterationAnswer (v.getD .undefined) v.isNone
  | .wrappedReturn => do
    let (source, _) ← wrappedOf this
    match ← getMethod source "return" with
    | .undefined => iterationAnswer .undefined true
    | f => do return .object (← requireObject (← call f source []) "iterator must return an object")
  | .generatorNext => generatorStep this fun values => do
    match values with
    | v :: rest => return (← iterationAnswer v false, rest)
    | [] => return (← iterationAnswer .undefined true, [])
  | .generatorReturn => generatorStep this fun _ => do
    return (← iterationAnswer first true, [])
  | .generatorThrow => do
    let _ ← generatorStep this fun _ => return (.undefined, [])
    raise first

end ScriptHost
