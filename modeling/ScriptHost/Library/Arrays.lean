import ScriptHost.Library.Objects
import ScriptHost.Library.Sorting
import ScriptHost.Library.Species

/-!
# What arrays can do

* `foldItems`: goes through the items of anything that claims a length;
* `joinItems`: the texts of items in a row;
* `sortPlaced`, `sortValues`: items and values in order;
* `ArrayMethod.run`: the functions of `Array` and the methods of arrays, which take any object.
-/

namespace ScriptHost

/-! ### Going through items -/

/-- The object that a method works on, and the length that it claims. -/
def asList (this : Value) : Script (Value × Nat) := do
  let list : Value := .object (← toObject this)
  return (list, ← lengthOf list)

/-- The item at an index, if the object has one. -/
def itemAt? (list : Value) (i : Nat) : Script (Option Value) := do
  match list with
  | .object r =>
    if ← hasProperty r (.item i) then return some (← getOf r (.item i)) else return none
  | _ => return none

/-- Goes on from index to index, until there are no more or the answer is to stop. -/
def foldFrom {σ : Type} (step : σ → Nat → Script (Bool × σ)) : Nat → Nat → σ → Script σ
  | 0, _, s => return s
  | n + 1, i, s => do
    let (more, s) ← step s i
    if more then foldFrom step n (i + 1) s else return s

/-- Goes on from index to index; more than time allows are never reached. -/
def foldItems {σ : Type} (count : Nat) (start : σ) (step : σ → Nat → Script (Bool × σ)) :
    Script σ := do
  if count > 10 * maxValues then timeUp else foldFrom step count 0 start

/-- The items of a list, as arrays give them. -/
def allItems (list : Value) (first count : Nat) : Script (Array Value) :=
  foldItems count #[] fun found i => do
    return (true, found.push (← getProperty list (.item (first + i))))

/-- A new array of values. -/
def arrayOf (vs : Array Value) : Script Value := newArray (vs.map some)

/-- Sets the length that a list claims. -/
def claimLength (list : Value) (n : Nat) : Script Unit := setProperty list "length" (.ofNat n)

/-- Sets an item, or removes it. -/
def writeItem (list : Value) (i : Nat) (v : Option Value) : Script Unit := do
  match v, list with
  | some v, _ => setProperty list (.item i) v
  | none, .object r => deleteForSure r (.item i)
  | none, _ => return

/-- Moves items of a list to another place; the order avoids reading what was written. -/
def moveItems (list : Value) (source target count : Nat) : Script Unit :=
  foldItems count () fun _ k => do
    let k := if source < target then count - 1 - k else k
    writeItem list (target + k) (← itemAt? list (source + k))
    return (true, ())

/-! ### Joining -/

/-- The text of an item; null and undefined have none. -/
def itemText (v : Value) : Script Text := do
  if v.isNullish then return .unicode "" else toText v

/-- The texts of items in a row, with a text in between. -/
def joinItems (list : Value) (count : Nat) (separator : Text)
    (text : Value → Script Text) : Script Text :=
  foldItems count (.unicode "") fun acc i => do
    let t ← text (← getProperty list (.item i))
    return (true, if i = 0 then t else acc ++ separator ++ t)

/-- The text that a value gives for a place. -/
def localText (v : Value) : Script Text := do
  if v.isNullish then return .unicode "" else toText (← callMethod v "toLocaleString" [])

/-! ### Order -/

/-- An item that is to be put in order, with the place where it stood and its text. -/
structure Placed where
  place : Nat
  value : Value
  text : Text := .unicode ""

/-- The order of two numbers, as the sign of a number tells it. -/
def signOrder (d : Double) : Ordering :=
  if d.isNaN || d.isZero then .eq else if d.negative then .lt else .gt

/-- The order of two items; equal ones stay as they stood.  A function is not asked about a value
and itself. -/
def orderPlaced (compare : Value) (a b : Placed) : Script Ordering := do
  let order ←
    if compare = .undefined then
      pure (if a.text = b.text then .eq
        else if Units.le a.text.units b.text.units then .lt else .gt)
    else if a.value = b.value then pure .eq
    else do pure (signOrder (← toNumber (← call compare .undefined [a.value, b.value])))
  return order.then (Ord.compare a.place b.place)

/-- Items in order.  Without a function they are ordered by their texts. -/
def sortPlaced (compare : Value) (items : Array Placed) : Script (Array Placed) := do
  let items ← if compare = .undefined && 1 < items.size then
      items.mapM fun p => do return { p with text := ← toText p.value }
    else pure items
  sortItems (orderPlaced compare) items

/-- A function that tells the order, if one is given. -/
def requireOrder (compare : Value) : Script Unit := do
  if compare != .undefined && !(← isCallable compare) then throwType "not a function"

/-- Values in order, where undefined comes last. -/
def sortValues (compare : Value) (vs : Array Value) : Script (Array Value) := do
  let present := vs.filter (· != .undefined)
  let sorted ← sortPlaced compare (present.mapIdx fun i v => { place := i, value := v })
  return sorted.map Placed.value ++ Array.replicate (vs.size - present.size) .undefined

/-- Puts the items of a list in order, where it stands.  An item that keeps its place is not
written. -/
def sortInPlace (this compare : Value) : Script Value := do
  requireOrder compare
  let (list, count) ← asList this
  let (present, absent) ← foldItems count ((#[] : Array Placed), 0) fun (found, absent) i => do
    match ← itemAt? list i with
    | some .undefined => return (true, found, absent + 1)
    | some v => return (true, found.push { place := i, value := v }, absent)
    | none => return (true, found, absent)
  let sorted ← sortPlaced compare present
  let _ ← sorted.foldlM (fun i p => do
    if p.place ≠ i then setProperty list (.item i) p.value
    return i + 1) 0
  let written := sorted.size + absent
  foldItems absent () fun _ k => do
    setProperty list (.item (sorted.size + k)) .undefined
    return (true, ())
  foldItems (count - written) () fun _ k => do
    writeItem list (written + k) none
    return (true, ())
  return list

/-! ### Search -/

/-- The first item, with its index, of which a function says yes; holes count if `holes` says
so. -/
def findItem (this f receiver : Value) (backward holes wanted : Bool) :
    Script (Option (Nat × Value)) := do
  let (list, count) ← asList this
  requireFunction f
  foldItems count none fun _ k => do
    let i := if backward then count - 1 - k else k
    let item ← if holes then do pure (some (← getProperty list (.item i))) else itemAt? list i
    match item with
    | none => return (true, none)
    | some v =>
      let answer ← call f receiver [v, .ofNat i, list]
      if answer.truthy = wanted then return (false, some (i, v)) else return (true, none)

/-- The index of a value, from an index on.  An empty list does not look at the index. -/
def indexOfValue (this v : Value) (start : Value) : Script (Option Nat) := do
  let (list, count) ← asList this
  if count = 0 then return none
  let first ← relativeIndex count start 0
  foldItems (count - first) none fun _ k => do
    match ← itemAt? list (first + k) with
    | some w => if w.strictlyEqual v then return (false, some (first + k)) else return (true, none)
    | none => return (true, none)

/-- The last index of a value, up to an index.  An empty list does not look at the index. -/
def lastIndexOfValue (this v : Value) (start : Option Value) : Script (Option Nat) := do
  let (list, count) ← asList this
  if count = 0 then return none
  let bound ← match start with
    | none => pure count
    | some s => do
      let d ← toInteger s
      let i := d.clampTo (-(maxLength : Int)) maxLength
      pure (max 0 (min (count : Int) ((if i < 0 then i + count else i) + 1))).toNat
  foldItems bound none fun _ k => do
    match ← itemAt? list (bound - 1 - k) with
    | some w =>
      if w.strictlyEqual v then return (false, some (bound - 1 - k)) else return (true, none)
    | none => return (true, none)

/-- An index as an answer, where none is minus one. -/
def indexAnswer (i : Option Nat) : Value := (i.map Value.ofNat).getD (.ofInt (-1))

/-! ### Folding -/

/-- The items of a list put together by a function. -/
def reduceItems (this f : Value) (start : Option Value) (backward : Bool) : Script Value := do
  let (list, count) ← asList this
  requireFunction f
  let result ← foldItems count start fun acc k => do
    let i := if backward then count - 1 - k else k
    match ← itemAt? list i with
    | none => return (true, acc)
    | some v =>
      match acc with
      | none => return (true, some v)
      | some w => return (true, some (← call f .undefined [w, v, .ofNat i, list]))
  match result with
  | some v => return v
  | none => throwType "empty array"

/-- Gathers the items of lists inside a list, so many levels deep. -/
def flatten : Nat → Nat → Value → Gathering → Script Gathering
  | 0, _, _, _ => stackExceeded
  | fuel + 1, depth, list, found => do
    foldItems (← lengthOf list) found fun found i => do
      match ← itemAt? list i with
      | none => return (true, found)
      | some v =>
        if depth > 0 && (← isArray v) then
          return (true, ← flatten fuel (depth - 1) v found)
        else return (true, ← found.push (some v))

/-! ### Copies -/

/-- Whether a value gives its items to a list that it is added to. -/
def isSpread (v : Value) : Script Bool := do
  match v with
  | .object _ =>
    match ← getProperty v (.known .isConcatSpreadable) with
    | .undefined => isArray v
    | w => return w.truthy
  | _ => return false

/-- The items of lists, and other values, as one list like the first. -/
def concatItems (list : Value) (vs : List Value) : Script Value := do
  let found ← (list :: vs).foldlM (fun found v => do
    if ← isSpread v then
      let count ← lengthOf v
      if found.items.size + count > maxLength then throwType "Array loo long"
      foldItems count found fun found i => do
        return (true, ← found.push (← itemAt? v i))
    else found.push (some v)) (← Gathering.like list 0)
  found.finishCounted

/-- Part of a list. -/
def sliceItems (list : Value) (first bound : Nat) : Script Value := do
  let found ← foldItems (bound - first) (← Gathering.like list (bound - first)) fun found k => do
    return (true, ← found.push (← itemAt? list (first + k)))
  found.finishCounted

/-- Where a splice begins, and how many items it takes out. -/
def spliceRange (count : Nat) (args : List Value) : Script (Nat × Nat) := do
  let first ← relativeIndex count (argument args 0) 0
  match args with
  | [] => return (first, 0)
  | [_] => return (first, count - first)
  | _ :: taken :: _ => do
    let n := (← toInteger taken).clampTo 0 (count - first : Nat)
    return (first, n.toNat)

/-- Replaces part of a list, and gives what was there. -/
def spliceItems (this : Value) (args : List Value) : Script Value := do
  let (list, count) ← asList this
  let (first, taken) ← spliceRange count args
  let new := args.drop 2
  if count + new.length - taken > maxLength then throwType "Array loo long"
  let removed ← sliceItems list first (first + taken)
  if new.length != taken then
    moveItems list (first + taken) (first + new.length) (count - first - taken)
    foldItems (taken - new.length) () fun _ k => do
      writeItem list (count - 1 - k) none
      return (true, ())
  let _ ← new.foldlM (fun i v => do
    setProperty list (.item i) v
    return i + 1) first
  claimLength list (count + new.length - taken)
  return removed

/-- A new list of the items that an object gives or holds, changed by a function if there is one.
If objects can be made with `maker`, that is what makes the list. -/
def listFrom (maker source f receiver : Value) : Script Value := do
  requireOrder f
  let maker ← if ← isConstructor maker then pure (some maker) else pure none
  let change (i : Nat) (v : Value) : Script Value :=
    if f = .undefined then return v else call f receiver [v, .ofNat i]
  let gives ← getNamed source (.known .iterator)
  if gives != .undefined then
    let found ← iterate source (← Gathering.of maker [] 0) fun found v => do
      return (true, ← found.push (some (← change found.items.size v)))
    found.finishCounted
  else
    let (list, count) ← asList source
    let found ← foldItems count (← Gathering.of maker [.ofNat count] count) fun found i => do
      return (true, ← found.push (some (← change i (← getProperty list (.item i)))))
    found.finishCounted

/-- A new list of some values. -/
def listOf (maker : Value) (vs : List Value) : Script Value := do
  let maker ← if ← isConstructor maker then pure (some maker) else pure none
  let found ← vs.foldlM (fun (found : Gathering) v => found.push (some v))
    (← Gathering.of maker [.ofNat vs.length] vs.length)
  found.finishCounted

/-- The items of a list that a function makes of those of another list. -/
def mapItems (this f receiver : Value) : Script Value := do
  let (list, count) ← asList this
  requireFunction f
  let found ← foldItems count (← Gathering.like list count) fun found i => do
    match ← itemAt? list i with
    | some v => return (true, ← found.push (some (← call f receiver [v, .ofNat i, list])))
    | none => return (true, ← found.push none)
  found.finish

/-- The items of a list of which a function says yes. -/
def filterItems (this f receiver : Value) : Script Value := do
  let (list, count) ← asList this
  requireFunction f
  let found ← foldItems count (← Gathering.like list 0) fun found i => do
    match ← itemAt? list i with
    | some v =>
      if (← call f receiver [v, .ofNat i, list]).truthy then return (true, ← found.push (some v))
      else return (true, found)
    | none => return (true, found)
  found.finish

/-- The items of what a function makes of the items of a list. -/
def flatMapItems (this f receiver : Value) : Script Value := do
  let (list, count) ← asList this
  requireFunction f
  let found ← foldItems count (← Gathering.like list 0) fun found i => do
    match ← itemAt? list i with
    | some v =>
      let w ← call f receiver [v, .ofNat i, list]
      if ← isArray w then return (true, ← flatten 2 0 w found)
      else return (true, ← found.push (some w))
    | none => return (true, found)
  found.finish

/-! ### Methods -/

/-- What a function of `Array` or a method of arrays does. -/
def ArrayMethod.run (f : ArrayMethod) (this : Value) (args : List Value) : Script Value :=
  let first := argument args 0
  let second := argument args 1
  match f with
  | .isArray => do return .bool (← ScriptHost.isArray first)
  | .ofIterable => listFrom this first second (argument args 2)
  | .ofItems => listOf this args
  | .atIndex => do
    let (list, count) ← asList this
    let i := (← toInteger first).clampTo (-(maxLength : Int)) maxLength
    let i := if i < 0 then i + count else i
    if 0 ≤ i && i < count then getProperty list (.item i.toNat) else return .undefined
  | .withItem => do
    let (list, count) ← asList this
    let i := (← toInteger first).clampTo (-(maxLength : Int)) maxLength
    let i := if i < 0 then i + count else i
    if 0 ≤ i && i < count then
      arrayOf ((← allItems list 0 count).setIfInBounds i.toNat second)
    else throwNew .rangeError "out of bound"
  | .concat => do concatItems (.object (← toObject this)) args
  | .every => do return .bool (← findItem this first second false false false).isNone
  | .any => do return .bool (← findItem this first second false false true).isSome
  | .forEach => do
    let (list, count) ← asList this
    requireFunction first
    foldItems count () fun _ i => do
      match ← itemAt? list i with
      | some v =>
        let _ ← call first second [v, .ofNat i, list]
      | none => pure ()
      return (true, ())
    return .undefined
  | .map => mapItems this first second
  | .filter => filterItems this first second
  | .reduce => reduceItems this first args[1]? false
  | .reduceRight => reduceItems this first args[1]? true
  | .fill => do
    let (list, count) ← asList this
    let start ← relativeIndex count second 0
    let bound ← relativeIndex count (argument args 2) count
    foldItems (bound - start) () fun _ k => do
      setProperty list (.item (start + k)) first
      return (true, ())
    return list
  | .find => do
    return ((← findItem this first second false true true).map Prod.snd).getD .undefined
  | .findIndex => do
    return indexAnswer ((← findItem this first second false true true).map Prod.fst)
  | .findLast => do
    return ((← findItem this first second true true true).map Prod.snd).getD .undefined
  | .findLastIndex => do
    return indexAnswer ((← findItem this first second true true true).map Prod.fst)
  | .indexOf => do return indexAnswer (← indexOfValue this first second)
  | .lastIndexOf => do return indexAnswer (← lastIndexOfValue this first args[1]?)
  | .includes => do
    let (list, count) ← asList this
    if count = 0 then return .bool false
    let start ← relativeIndex count second 0
    let found ← foldItems (count - start) false fun _ k => do
      let same := (← getProperty list (.item (start + k))).sameZero first
      return (!same, same)
    return .bool found
  | .join => do
    let (list, count) ← asList this
    let separator ← match first with
      | .undefined => pure (Text.unicode ",")
      | v => ScriptHost.toText v
    return .string (← joinItems list count separator itemText)
  | .toText => do
    let list : Value := .object (← toObject this)
    let join ← getProperty list "join"
    if ← isCallable join then call join list [] else describeObject list
  | .toLocaleText => do
    let (list, count) ← asList this
    return .string (← joinItems list count (.unicode ",") localText)
  | .pop => do
    let (list, count) ← asList this
    if count = 0 then
      claimLength list 0
      return .undefined
    else
      let v ← getProperty list (.item (count - 1))
      writeItem list (count - 1) none
      claimLength list (count - 1)
      return v
  | .push => do
    let (list, count) ← asList this
    if count + args.length > maxLength then throwType "Array loo long"
    let n ← args.foldlM (fun i v => do
      setProperty list (.item i) v
      return i + 1) count
    claimLength list n
    return .ofNat n
  | .shift => do
    let (list, count) ← asList this
    if count = 0 then
      claimLength list 0
      return .undefined
    else
      let v ← getProperty list (.item 0)
      moveItems list 1 0 (count - 1)
      writeItem list (count - 1) none
      claimLength list (count - 1)
      return v
  | .unshift => do
    let (list, count) ← asList this
    if !args.isEmpty then
      moveItems list 0 args.length count
      let _ ← args.foldlM (fun i v => do
        setProperty list (.item i) v
        return i + 1) 0
    claimLength list (count + args.length)
    return .ofNat (count + args.length)
  | .reverse => do
    let (list, count) ← asList this
    foldItems (count / 2) () fun _ i => do
      let low ← itemAt? list i
      let high ← itemAt? list (count - 1 - i)
      if low.isSome || high.isSome then
        writeItem list i high
        writeItem list (count - 1 - i) low
      return (true, ())
    return list
  | .toReversed => do
    let (list, count) ← asList this
    arrayOf (← allItems list 0 count).reverse
  | .sort => sortInPlace this first
  | .toSorted => do
    requireOrder first
    let (list, count) ← asList this
    arrayOf (← sortValues first (← allItems list 0 count))
  | .slice => do
    let (list, count) ← asList this
    let start ← relativeIndex count first 0
    let bound ← relativeIndex count second count
    sliceItems list start bound
  | .splice => spliceItems this args
  | .toSpliced => do
    let (list, count) ← asList this
    let (start, taken) ← spliceRange count args
    let vs ← allItems list 0 count
    arrayOf (vs.extract 0 start ++ (args.drop 2).toArray ++ vs.extract (start + taken) count)
  | .copyWithin => do
    let (list, count) ← asList this
    let target ← relativeIndex count first 0
    let source ← relativeIndex count second 0
    let bound ← relativeIndex count (argument args 2) count
    moveItems list source target (min (bound - source) (count - target))
    return list
  | .flatMap => flatMapItems this first second
  | .flat => do
    let (list, _) ← asList this
    let depth ← match first with
      | .undefined => pure 1
      | v => do pure ((← toInteger v).clampTo 0 maxLength).toNat
    (← flatten 1000 depth list (← Gathering.like list 0)).finish
  | .values => do newWalk .items (.items (← toObject this) 0 .values)
  | .keys => do newWalk .items (.items (← toObject this) 0 .keys)
  | .entries => do newWalk .items (.items (← toObject this) 0 .entries)

end ScriptHost
