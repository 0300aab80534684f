import ScriptHost.Library.Buffers

/-!
# Lists of numbers

* `makeElements`: a new list of numbers in a buffer;
* `View`, `viewOf`: the list that a value is;
* `ElementMethod.run`: the functions and methods of these lists, some of which arrays have, too.
-/

namespace ScriptHost

/-! ### New lists -/

/-- A new list of so many zeros. -/
def newElements (t : ElementType) (prototype : Ref) (length : Nat) : Script Ref := do
  let buffer ← newBuffer Family.buffer.prototype (length * t.width) none false
  allocate { kind := .elements t buffer 0 (some length), prototype := some prototype }

/-- Sets the numbers of a list, from a place on. -/
def fillElements (r : Ref) : Nat → List Value → Script Unit
  | _, [] => return
  | i, v :: rest => do
    match (← readObject r).kind with
    | .elements t buffer offset length => do
      writeElement t buffer offset length i (← toElement t v)
      fillElements r (i + 1) rest
    | _ => return

/-- A new list of the given numbers. -/
def elementsOf (t : ElementType) (vs : List Value) : Script Value := do
  let r ← newElements t (Family.elements t).prototype vs.length
  fillElements r 0 vs
  return .object r

/-- The part of a buffer that a list is asked to cover: where it starts, and how many numbers,
unless it goes as far as a buffer that may change. -/
def viewRange (t : ElementType) (buffer : Ref) (offset length : Value) :
    Script (Nat × Option Nat) := do
  let start ← toIndex offset
  let s ← readStore buffer
  requireAttached s
  if start % t.width != 0 || start > s.bytes.size then throwNew .rangeError "invalid offset"
  let room := s.bytes.size - start
  match length with
  | .undefined =>
    if s.limit.isSome then return (start, none)
    else if room % t.width != 0 then throwNew .rangeError "invalid length"
    else return (start, some (room / t.width))
  | v =>
    let n ← toIndex v
    let s ← readStore buffer
    requireAttached s
    if start + n * t.width > s.bytes.size then throwNew .rangeError "invalid length"
    else return (start, some n)

/-- The values that an object gives, or else those that it holds. -/
def givenValues (source : Value) : Script (List Value) := do
  if (← getProperty source (.known .iterator)).isNullish then
    return (← allItems source 0 (← lengthOf source)).toList
  else iterated source

/-- A new list of numbers: so many zeros, a part of a buffer, or the numbers of an object. -/
def makeElements (t : ElementType) (how : Invocation) (args : List Value) : Script Value := do
  match argument args 0 with
  | .object source =>
    match (← readObject source).kind with
    | .buffer _ =>
      let (start, length) ← viewRange t source (argument args 1) (argument args 2)
      return .object (← newInstance how (.elements t) (.elements t source start length))
    | .elements .. =>
      let prototype ← prototypeFor how (.elements t)
      let count ← walkLength source
      fill prototype (← allItems (.object source) 0 count).toList
    | _ =>
      let prototype ← prototypeFor how (.elements t)
      fill prototype (← givenValues (.object source))
  | v =>
    let length ← toIndex v
    let buffer ← newBuffer Family.buffer.prototype (length * t.width) none false
    return .object (← newInstance how (.elements t) (.elements t buffer 0 (some length)))
where
  /-- A new list of the given numbers. -/
  fill (prototype : Ref) (vs : List Value) : Script Value := do
    let r ← newElements t prototype vs.length
    fillElements r 0 vs
    return .object r

/-! ### Receivers -/

/-- A list of numbers: where it lies, their type, the buffer, where they start, and how many they
are, if that does not depend on the buffer. -/
structure View where
  object : Ref
  type : ElementType
  buffer : Ref
  offset : Nat
  length : Option Nat

namespace View

def extent (w : View) : Extent := ⟨w.type.width, w.offset, w.length⟩

/-- The numbers that a list has at present. -/
def values (w : View) : Script (List Value) := do
  let s ← readStore w.buffer
  return (List.range (w.extent.count s)).map (s.element w.type w.offset)

/-- How many numbers a list has at present. -/
def count (w : View) : Script Nat := do return w.extent.count (← readStore w.buffer)

/-- Whether the buffer does not have the list any more. -/
def isOut (w : View) : Script Bool := do return w.extent.isOut (← readStore w.buffer)

end View

/-- The list of numbers that a value is, if it is one. -/
def viewOf? (v : Value) : Script (Option View) := do
  match v with
  | .object r =>
    match (← readObject r).kind with
    | .elements t buffer offset length => return some ⟨r, t, buffer, offset, length⟩
    | _ => return none
  | _ => return none

/-- The list of numbers that a value has to be. -/
def viewOf (v : Value) : Script View := do
  match ← viewOf? v with
  | some w => return w
  | none => throwType "not a TypedArray"

/-- The same for a list that its buffer still has. -/
def liveView (v : Value) : Script View := do
  let w ← viewOf v
  if ← w.isOut then throwType outOfBuffer else return w

/-! ### Lists like others -/

/-- A list that a constructor makes; if it is only told how many numbers there are to be, it must
have that many. -/
def constructElements (c : Value) (args : List Value) : Script Value := do
  let made ← constructNew c args
  let count ← (← liveView made).count
  match args with
  | [.number d] =>
    if (Double.ofInt count).lt d then throwType "TypedArray length is too small" else return made
  | _ => return made

/-- A list like another one. -/
def elementsLike (w : View) (args : List Value) : Script Value := do
  match ← speciesOf (.object w.object) with
  | some c => constructElements c args
  | none =>
    let maker ← getOf (Family.elements w.type).prototype "constructor"
    makeElements w.type (.making (maker.ref?.getD w.object)) args

/-- Sets the numbers of a list, as assignments do. -/
def assignItems (list : Value) (start : Nat) (vs : List Value) : Script Unit := do
  let _ ← vs.foldlM (fun i v => do
    setProperty list (.item i) v
    return i + 1) start

/-- A list like another one, of some numbers. -/
def elementsLikeOf (w : View) (vs : List Value) : Script Value := do
  let new ← elementsLike w [.ofNat vs.length]
  assignItems new 0 vs
  return new

/-- A part of a list, in the same buffer. -/
def subarray (this first last : Value) : Script Value := do
  let w ← viewOf this
  let count ← w.count
  let start ← relativeIndex count first 0
  let bound ← relativeIndex count last count
  let offset := Value.ofNat (w.offset + start * w.type.width)
  let open? := w.length.isNone && last = .undefined
  elementsLike w ([.object w.buffer, offset] ++ if open? then [] else [.ofNat (bound - start)])

/-! ### Order -/

/-- The order of numbers, in which zeros are told apart and NaNs come last. -/
def numberPrecedes (v w : Value) : Bool :=
  match v, w with
  | .number a, .number b =>
    if a.isNaN then b.isNaN
    else if b.isNaN then true
    else if a.isZero && b.isZero then a.negative || !b.negative
    else !b.lt a
  | .bigint m, .bigint n => m ≤ n
  | _, _ => true

/-- Numbers in order.  A function is asked about equal ones, too. -/
def sortNumbers (compare : Value) (vs : List Value) : Script (List Value) := do
  if compare = .undefined then return vs.mergeSort numberPrecedes
  else
    let order (a b : Nat × Value) : Script Ordering := do
      let answer ← call compare .undefined [a.2, b.2]
      return (signOrder (← toNumber answer)).then (Ord.compare a.1 b.1)
    let sorted ← sortItems order (vs.toArray.mapIdx fun i v => (i, v))
    return sorted.toList.map Prod.snd

/-! ### Methods -/

/-- Copies the numbers of an object to a list, from a place on. -/
def copyToElements (this source start : Value) : Script Unit := do
  let w ← viewOf this
  let i := (← toInteger start).clampTo (-1) maxLength
  let badRange : Script Unit := throwNew .rangeError "invalid array length"
  if i < 0 then badRange
  else if ← w.isOut then throwType outOfBuffer
  else
    let count ← w.count
    let from? ← viewOf? source
    let source : Value := .object (← toObject source)
    let size ← match from? with
      | some v => do
        if ← v.isOut then throwType outOfBuffer else v.count
      | none => lengthOf source
    if i + size > count then badRange
    else
      match from? with
      | some v => assignItems this i.toNat (← v.values)
      | none =>
        foldItems size () fun _ k => do
          setProperty this (.item (i.toNat + k)) (← getProperty source (.item k))
          return (true, ())

/-- Sets a part of a list to one number. -/
def fillView (this v first last : Value) : Script Value := do
  let w ← liveView this
  let count ← w.count
  let v ← toElement w.type v
  let start ← relativeIndex count first 0
  let bound ← relativeIndex count last count
  if ← w.isOut then throwType outOfBuffer
  else
    foldItems (bound - start) () fun _ k => do
      writeElement w.type w.buffer w.offset w.length (start + k) v
      return (true, ())
    return this

/-- A copy of a list with one number replaced. -/
def viewWith (this index v : Value) : Script Value := do
  let w ← viewOf this
  let i := (← toInteger index).clampTo (-(maxLength : Int)) maxLength
  let count ← w.count
  let i := if i < 0 then i + count else i
  let v ← toPrimitive .number v
  let vs ← w.values
  if (← w.isOut) || i < 0 || vs.length ≤ i then throwNew .rangeError "invalid array index"
  else
    let new ← elementsOf w.type vs
    setProperty new (.item i.toNat) v
    return new

/-- The texts of the numbers of a list in a row. -/
def joinView (this separator : Value) : Script Value := do
  let w ← liveView this
  let count ← w.count
  let separator ← match separator with
    | .undefined => pure (Text.unicode ",")
    | v => toText v
  return .string (← joinItems this count separator itemText)

/-- A new list of the numbers that an object gives or holds, changed by a function if one is
given. -/
def elementsFrom (maker source f receiver : Value) : Script Value := do
  requireOrder f
  let list : Value ← if (← getNamed source (.known .iterator)) = .undefined then do
      pure (.object (← toObject source))
    else do newList (← iterated source)
  let count ← lengthOf list
  let new ← constructElements maker [.ofNat count]
  foldItems count () fun _ i => do
    let v ← getProperty list (.item i)
    let v ← if f = .undefined then pure v else call f receiver [v, .ofNat i]
    setProperty new (.item i) v
    return (true, ())
  return new

/-- What a function or method of lists of numbers does. -/
def ElementMethod.run (f : ElementMethod) (this : Value) (args : List Value) : Script Value :=
  let first := argument args 0
  let second := argument args 1
  match f with
  | .length => do return .ofNat (← (← viewOf this).count)
  | .buffer => do return .object (← viewOf this).buffer
  | .byteLength => do
    let w ← viewOf this
    return .ofNat ((← w.count) * w.type.width)
  | .byteOffset => do
    let w ← viewOf this
    if ← w.isOut then return .ofNat 0 else return .ofNat w.offset
  | .tag => do
    match ← viewOf? this with
    | some w => return .ofString w.type.arrayName
    | none => return .undefined
  | .common f => do
    let _ ← liveView this
    f.run this args
  | .set => do
    copyToElements this first second
    return .undefined
  | .subarray => ScriptHost.subarray this first second
  | .slice => do
    let w ← liveView this
    let count ← w.count
    let start ← relativeIndex count first 0
    let bound ← relativeIndex count second count
    let new ← elementsLike w [.ofNat (bound - start)]
    if start < bound then
      let w ← liveView this
      let _ ← liveView new
      assignItems new 0 (((← w.values).take bound).drop start)
    return new
  | .map => do
    let w ← liveView this
    requireFunction first
    let count ← w.count
    let new ← elementsLike w [.ofNat count]
    foldItems count () fun _ i => do
      let v ← getProperty this (.item i)
      setProperty new (.item i) (← call first second [v, .ofNat i, this])
      return (true, ())
    return new
  | .filter => do
    let w ← liveView this
    requireFunction first
    let found ← foldItems (← w.count) #[] fun found i => do
      let v ← getProperty this (.item i)
      let answer ← call first second [v, .ofNat i, this]
      return (true, if answer.truthy then found.push v else found)
    elementsLikeOf w found.toList
  | .fill => fillView this first second (argument args 2)
  | .withItem => viewWith this first second
  | .toReversed => do
    let w ← liveView this
    elementsOf w.type (← w.values).reverse
  | .sort => do
    requireOrder first
    let w ← liveView this
    fillElements w.object 0 (← sortNumbers first (← w.values))
    return this
  | .toSorted => do
    requireOrder first
    let w ← liveView this
    elementsOf w.type (← sortNumbers first (← w.values))
  | .toLocaleText => do
    let w ← liveView this
    let count ← w.count
    return .string (← joinItems this count (.unicode ",") localText)
  | .join => joinView this first
  | .ofIterable => elementsFrom this first second (argument args 2)
  | .ofItems => do
    let new ← constructElements this [.ofNat args.length]
    assignItems new 0 args
    return new

end ScriptHost
