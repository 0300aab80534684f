import ScriptHost.Library.NumberLists

/-!
# Single numbers in buffers

* `makeView`, `ViewMethod.run`: views of the bytes of a buffer in which any number can be looked at;
* `AtomicFunction.run`: the functions for numbers that several threads may share.
-/

namespace ScriptHost

/-! ### Views -/

/-- The buffer that a value is, whether several threads may share it or not. -/
def anyBuffer (v : Value) : Script (Ref × ByteStore) := do
  match v with
  | .object r =>
    match (← readObject r).kind with
    | .buffer s => return (r, s)
    | _ => bufferOf false v
  | _ => bufferOf false v

/-- A new view of a part of a buffer. -/
def makeView (how : Invocation) (args : List Value) : Script Value := do
  let (buffer, _) ← anyBuffer (argument args 0)
  let start ← toIndex (argument args 1)
  let s ← readStore buffer
  requireAttached s
  if start > s.bytes.size then throwNew .rangeError "invalid byteOffset"
  let room := s.bytes.size - start
  let length ← match argument args 2 with
    | .undefined => pure (if s.limit.isSome then none else some room)
    | v => do
      let n ← toIndex v
      if n > room then throwNew .rangeError "invalid byteLength" else pure (some n)
  return .object (← newInstance how .view (.view buffer start length))

/-- The view that a value is: its buffer, and the part of it. -/
def singleView (this : Value) : Script (Ref × Extent) := do
  match this with
  | .object r =>
    match (← readObject r).kind with
    | .view buffer offset length => return (buffer, ⟨1, offset, length⟩)
    | _ => throwType "DataView object expected"
  | _ => throwType "DataView object expected"

/-- The place of a number in the bytes of a buffer. -/
def placeInView (source : Ref) (e : Extent) (i width : Nat) : Script Nat := do
  let s ← readStore source
  requireAttached s
  if e.isOut s then throwType outOfBuffer
  else if i + width > e.count s then throwNew .rangeError "out of bound"
  else return e.offset + i

/-- What a method of views of single numbers does. -/
def ViewMethod.run (f : ViewMethod) (this : Value) (args : List Value) : Script Value := do
  let (source, e) ← singleView this
  match f with
  | .buffer => return .object source
  | .byteLength =>
    let s ← readStore source
    if e.isOut s then throwType outOfBuffer else return .ofNat (e.count s)
  | .byteOffset =>
    let s ← readStore source
    if e.isOut s then throwType outOfBuffer else return .ofNat e.offset
  | .get t =>
    let i ← toIndex (argument args 0)
    let place ← placeInView source e i t.width
    let bytes := ((← readStore source).bytes.extract place (place + t.width)).toList
    return t.ofBytes (if (argument args 1).truthy then bytes else bytes.reverse)
  | .put t =>
    let i ← toIndex (argument args 0)
    let bytes := t.toBytes (← toElement t (argument args 1))
    let place ← placeInView source e i t.width
    writeBytes source place (if (argument args 2).truthy then bytes else bytes.reverse)
    return .undefined

/-! ### Numbers that several threads may share -/

/-- What the place of a number is wanted for. -/
inductive AtomicUse
  | access
  | notify
  | wait
  deriving DecidableEq

/-- Whether numbers of a type can be used so. -/
def AtomicUse.fits (use : AtomicUse) (t : ElementType) : Bool :=
  match use with
  | .access => !([.uint8Clamped, .float16, .float32, .float64] : List ElementType).contains t
  | .notify | .wait => t = .int32 || t = .bigInt64

/-- The place of a whole number in a list: the list, and the index. -/
def atomicPlace (use : AtomicUse) (list index : Value) : Script (View × Nat) := do
  match ← viewOf? list with
  | none => throwType "integer TypedArray expected"
  | some w =>
    if !use.fits w.type then throwType "integer TypedArray expected"
    let s ← readStore w.buffer
    if !s.shared && use = .wait then throwType "not a SharedArrayBuffer TypedArray"
    requireAttached s
    let i ← toIndex index
    if (← w.count) ≤ i then throwNew .rangeError "out-of-bound access"
    return (w, i)

/-- Complains about a list whose buffer has lost its bytes. -/
def requireAttachedView (w : View) : Script Unit := do
  requireAttached (← readStore w.buffer)

/-- Puts a number in the place of another, which is the answer; `change` is told the words of the
old number and of the values. -/
def atomicChange (args : List Value) (count : Nat) (change : Nat → List Nat → Nat) :
    Script Value := do
  let (w, i) ← atomicPlace .access (argument args 0) (argument args 1)
  let t := w.type
  let words ← (List.range count).mapM fun k => do
    return t.toWord (← toElement t (argument args (k + 2)))
  requireAttachedView w
  let old := (← readStore w.buffer).element t w.offset i
  let word := change (t.toWord old) words % twoTo (8 * t.width)
  writeElement t w.buffer w.offset w.length i (t.ofWord word)
  return old

/-- Stores a whole number, which is the answer. -/
def atomicStore (list index v : Value) : Script Value := do
  let (w, i) ← atomicPlace .access list index
  let v ← if w.type.isBig then do pure (.bigint (← toBigInt v))
    else do
      let d ← toInteger v
      pure (.number (if d.isZero then .zero false else d))
  requireAttachedView w
  writeElement w.type w.buffer w.offset w.length i v
  return v

/-- Waits for a number to change, which scripts may not do. -/
def atomicWait (args : List Value) : Script Value := do
  let (w, _) ← atomicPlace .wait (argument args 0) (argument args 1)
  let _ ← toElement w.type (argument args 2)
  let _ ← toNumber (argument args 3)
  throwType "cannot block in this thread"

/-- A pause, which may be told how long it is to be. -/
def atomicPause (length : Option Value) : Script Value :=
  match length with
  | none | some .undefined => return .undefined
  | some (.number d) =>
    if d.toInt?.isSome then return .undefined else throwType "not an integral number"
  | some _ => throwType "not an integral number"

/-- What a function of `Atomics` does. -/
def AtomicFunction.run (f : AtomicFunction) (args : List Value) : Script Value :=
  let one (change : Nat → Nat → Nat) : Script Value :=
    atomicChange args 1 fun old words => change old (words.headD 0)
  match f with
  | .add => one fun old n => old + n
  | .bitAnd => one Nat.land
  | .bitOr => one Nat.lor
  | .subtract => one fun old n => old + (twoTo 64 - n)
  | .bitXor => one Nat.xor
  | .exchange => one fun _ n => n
  | .compareExchange => atomicChange args 2 fun old words =>
    if words.head? = some old then words.getD 1 0 else old
  | .load => atomicChange args 0 fun old _ => old
  | .store => atomicStore (argument args 0) (argument args 1) (argument args 2)
  | .isLockFree => do
    let n := (← toInteger (argument args 0)).clampTo 0 16
    return .bool ([1, 2, 4, 8].contains n)
  | .pause => atomicPause args.head?
  | .wait => atomicWait args
  | .notify => do
    let _ ← atomicPlace .notify (argument args 0) (argument args 1)
    if argument args 2 != .undefined then
      let _ ← toInteger (argument args 2)
    return .ofNat 0

end ScriptHost
