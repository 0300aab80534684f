import ScriptHost.Library.Arrays
import ScriptHost.Library.Functions

/-!
# Buffers

* `makeBuffer`: a new buffer;
* `bufferOf`: the buffer that a value is;
* `BufferMethod.run`: the functions and methods of buffers.

A buffer that gives its bytes to another one is detached: it has no bytes from then on.
-/

namespace ScriptHost

/-! ### New buffers -/

/-- A whole number that is not negative. -/
def toIndex (v : Value) : Script Nat := do
  let d ← toInteger v
  let n := d.clampTo (-1) (maxLength + 1 : Nat)
  if 0 ≤ n && n ≤ maxLength then return n.toNat else throwNew .rangeError "invalid array index"

/-- The bytes that a buffer can have. -/
def maxBufferBytes : Nat := twoTo 31 - 1

/-- The bytes that there is room for. -/
def bufferRoom : Nat := twoTo 26

/-- A new buffer, if there is room for it. -/
def newBuffer (prototype : Ref) (length : Nat) (limit : Option Nat) (shared : Bool) :
    Script Ref := do
  if length > maxBufferBytes then throwNew .rangeError "invalid array buffer length"
  else if limit.any (maxBufferBytes < ·) then
    throwNew .rangeError "invalid max array buffer length"
  else if max length (limit.getD 0) > bufferRoom then throwNew .internalError "out of memory"
  else
    allocate
      { kind := .buffer { bytes := Array.replicate length 0, limit, shared }
        prototype := some prototype }

/-- The family of a buffer. -/
def bufferFamily (shared : Bool) : Family := if shared then .sharedBuffer else .buffer

/-- A whole number of 64 bits; greater ones count as the greatest. -/
def toInt64 (v : Value) : Script Int := do
  return (← toInteger v).clampTo (-(twoTo 63 : Int)) (twoTo 63 - 1 : Nat)

/-- The most bytes that a buffer may ever have, if the options of a constructor tell it. -/
def toLimit (options : Value) (length : Nat) : Script (Option Nat) := do
  match options with
  | .object _ =>
    match ← getProperty options "maxByteLength" with
    | .undefined => return none
    | v =>
      let n ← toInt64 v
      if (length : Int) ≤ n && n ≤ maxLength then return some n.toNat
      else throwNew .rangeError "invalid array buffer max length"
  | _ => return none

/-- A new buffer of zeros. -/
def makeBuffer (shared : Bool) (how : Invocation) (args : List Value) : Script Value := do
  let length ← toIndex (argument args 0)
  let limit ← toLimit (argument args 1) length
  return .object (← newBuffer (← prototypeFor how (bufferFamily shared)) length limit shared)

/-! ### Receivers -/

/-- The buffer that a value is, and what it holds. -/
def bufferOf (shared : Bool) (v : Value) : Script (Ref × ByteStore) := do
  match v with
  | .object r =>
    match (← readObject r).kind with
    | .buffer s => if s.shared = shared then return (r, s) else wrong
    | _ => wrong
  | _ => wrong
where
  /-- The complaint about another value. -/
  wrong {α : Type} : Script α :=
    throwType
      (if shared then "SharedArrayBuffer object expected" else "ArrayBuffer object expected")

/-- Complains about a buffer without its bytes. -/
def requireAttached (s : ByteStore) : Script Unit :=
  if s.detached then throwType "ArrayBuffer is detached" else return

/-! ### Changes -/

/-- Bytes, so many of them; new ones are zeros. -/
def resized (bytes : Array UInt8) (length : Nat) : Array UInt8 :=
  bytes.extract 0 length ++ Array.replicate (length - bytes.size) 0

/-- Changes the number of bytes of a buffer; one that several threads share only grows. -/
def resizeBuffer (shared : Bool) (this length : Value) : Script Value := do
  let (r, _) ← bufferOf shared this
  let n ← toInt64 length
  let (_, s) ← bufferOf shared this
  requireAttached s
  match s.limit with
  | none => throwType "array buffer is not resizable"
  | some limit =>
    let least := if shared then s.bytes.size else 0
    if (least : Int) ≤ n && n ≤ limit then
      modifyStore r fun s => { s with bytes := resized s.bytes n.toNat }
      return .undefined
    else throwNew .rangeError "invalid array buffer length"

/-- A new buffer like another one, with some bytes of it. -/
def sliceBuffer (shared : Bool) (this first last : Value) : Script Value := do
  let (_, s) ← bufferOf shared this
  requireAttached s
  let start ← relativeIndex s.bytes.size first 0
  let bound ← relativeIndex s.bytes.size last s.bytes.size
  let count := bound - start
  let new ← match ← speciesOf this with
    | none => do
      pure (.object (← newBuffer (bufferFamily shared).prototype count none shared))
    | some c => constructNew c [.ofNat count]
  let (r, t) ← bufferOf shared new
  if new = this then throwType "cannot use identical ArrayBuffer"
  requireAttached t
  if t.bytes.size < count then throwType "new ArrayBuffer is too small"
  let (_, s) ← bufferOf shared this
  if s.detached || s.bytes.size < start + count then throwType "ArrayBuffer is detached"
  writeBytes r 0 (s.bytes.extract start (start + count)).toList
  return new

/-- Gives the bytes of a buffer to a new one. -/
def transferBuffer (this length : Value) (fixed : Bool) : Script Value := do
  let (r, s) ← bufferOf false this
  let n ← match length with
    | .undefined => pure s.bytes.size
    | v => toIndex v
  let (_, s) ← bufferOf false this
  requireAttached s
  let limit := if fixed then none else s.limit
  if limit.any (· < n) then throwNew .rangeError "invalid array buffer length"
  let new ← newBuffer Family.buffer.prototype n limit false
  modifyStore new fun t => { t with bytes := resized s.bytes n }
  modifyStore r fun s => { s with bytes := #[], detached := true }
  return .object new

/-! ### Methods -/

/-- Whether a value shows the numbers of a buffer. -/
def isView (v : Value) : Script Bool := do
  match v with
  | .object r =>
    match (← readObject r).kind with
    | .elements .. | .view .. => return true
    | _ => return false
  | _ => return false

/-- What a function or method of buffers does. -/
def BufferMethod.run (f : BufferMethod) (shared : Bool) (this : Value) (args : List Value) :
    Script Value :=
  let first := argument args 0
  match f with
  | .isView => do return .bool (← ScriptHost.isView first)
  | .byteLength => do return .ofNat (← bufferOf shared this).2.bytes.size
  | .maxByteLength => do
    let (_, s) ← bufferOf shared this
    return .ofNat (s.limit.getD s.bytes.size)
  | .resizable => do return .bool (← bufferOf shared this).2.limit.isSome
  | .detached => do return .bool (← bufferOf shared this).2.detached
  | .resize => resizeBuffer shared this first
  | .slice => sliceBuffer shared this first (argument args 1)
  | .transfer fixed => transferBuffer this first fixed

end ScriptHost
