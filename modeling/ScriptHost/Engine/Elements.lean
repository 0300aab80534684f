import ScriptHost.Engine.Heap
import ScriptHost.Engine.Numeral
import ScriptHost.Number.Decimal
import ScriptHost.Number.Narrow

/-!
# Numbers in buffers

* `ElementType.ofBytes`, `ElementType.toBytes`: a number as the bytes of a buffer;
* `Key.position?`: the place in a list of numbers that a key names, which need not be there;
* `Extent`: a part of a buffer;
* `Heap.element`: the number at a place of a list.

The bytes of a number stand in a buffer with the low ones first.
-/

namespace ScriptHost

namespace ElementType

/-- Whether the numbers are big integers. -/
def isBig (t : ElementType) : Bool := t = bigInt64 || t = bigUint64

/-- The number that a word stands for, one half of the words being negative. -/
def signed (bits : Nat) (word : Nat) : Int :=
  if word < twoTo (bits - 1) then word else (word : Int) - twoTo bits

/-- The value that a word stands for. -/
def ofWord (t : ElementType) (word : Nat) : Value :=
  match t with
  | uint8Clamped | uint8 | uint16 | uint32 => .ofNat word
  | int8 | int16 | int32 => .ofInt (signed (8 * t.width) word)
  | bigInt64 => .bigint (signed 64 word)
  | bigUint64 => .bigint word
  | float16 => .number (NarrowFormat.half.toDouble word)
  | float32 => .number (NarrowFormat.single.toDouble word)
  | float64 => .number ⟨UInt64.ofNat word⟩

/-- The nearest whole number from 0 to 255, a tie going to the even one. -/
def clamp (d : Double) : Nat :=
  match d.decode with
  | .nan => 0
  | .infinite neg => if neg then 0 else 255
  | .finite neg m e =>
    if neg then 0
    else if 0 ≤ e then min 255 (m * twoTo e.toNat)
    else min 255 (Double.roundDiv m (twoTo (-e).toNat))

/-- The word of a number or a big integer. -/
def toWord (t : ElementType) (v : Value) : Nat :=
  match v with
  | .number d =>
    match t with
    | uint8Clamped => clamp d
    | float16 => NarrowFormat.half.ofDouble d
    | float32 => NarrowFormat.single.ofDouble d
    | float64 => d.bits.toNat
    | t => d.wrap (8 * t.width)
  | .bigint n => (n % (twoTo 64 : Int)).toNat
  | _ => 0

/-- The value of bytes. -/
def ofBytes (t : ElementType) (bytes : List UInt8) : Value :=
  t.ofWord (bytes.foldr (fun b n => 256 * n + b.toNat) 0)

/-- The bytes of a word, so many. -/
def bytesOf : Nat → Nat → List UInt8
  | 0, _ => []
  | count + 1, word => UInt8.ofNat (word % 256) :: bytesOf count (word / 256)

/-- The bytes of a value. -/
def toBytes (t : ElementType) (v : Value) : List UInt8 := bytesOf t.width (t.toWord v)

end ElementType

/-! ### Places -/

/-- The number that a key spells in the form in which scripts write it. -/
def Key.numeric? : Key → Option Double
  | .text (.unicode s) =>
    match s.toList with
    | [] => none
    | c :: _ =>
      if c.isDigit || c = '-' || c = 'I' || c = 'N' then
        if s = "-0" then some (.zero true)
        else
          let d := Numeral.ofChars s.toList
          if d.render .script = s then some d else none
      else none
  | _ => none

/-- The place in a list that a number is, if it is a whole one and below `length`. -/
def Double.placeBelow? (length : Nat) (d : Double) : Option Nat :=
  if d.isZero && d.negative then none
  else (d.toInt?.filter fun (i : Int) => 0 ≤ i && i < length).map Int.toNat

/-- A part of the bytes of a buffer, in numbers of some bytes each: where it starts, and how many
numbers it has if it does not end with the buffer. -/
structure Extent where
  width : Nat
  offset : Nat
  length : Option Nat

namespace Extent

/-- Whether a buffer does not have the part any more. -/
def isOut (e : Extent) (s : ByteStore) : Bool :=
  s.detached || s.bytes.size < e.offset + e.length.getD 0 * e.width

/-- How many numbers of the part a buffer has. -/
def count (e : Extent) (s : ByteStore) : Nat :=
  if e.isOut s then 0 else e.length.getD ((s.bytes.size - e.offset) / e.width)

end Extent

/-- What a buffer holds. -/
def Object.store (o : Object) : ByteStore :=
  match o.kind with
  | .buffer s => s
  | _ => { bytes := #[] }

/-- The number at a place of a list whose numbers start somewhere in a buffer. -/
def ByteStore.element (s : ByteStore) (t : ElementType) (offset i : Nat) : Value :=
  let start := offset + i * t.width
  t.ofBytes (s.bytes.extract start (start + t.width)).toList

namespace Heap

/-- What a buffer holds. -/
def store (h : Heap) (buffer : Ref) : ByteStore := (h.object buffer).store

/-- How many numbers a list has. -/
def elementCount (h : Heap) (t : ElementType) (buffer : Ref) (offset : Nat)
    (length : Option Nat) : Nat :=
  (Extent.mk t.width offset length).count (h.store buffer)

/-- The number at a place of a list. -/
def element (h : Heap) (t : ElementType) (buffer : Ref) (offset i : Nat) : Value :=
  (h.store buffer).element t offset i

end Heap

/-- Bytes with some replaced, from a place on. -/
def putBytes (start : Nat) (new : List UInt8) (bytes : Array UInt8) : Array UInt8 :=
  (new.foldl (fun (i, acc) b => (i + 1, acc.setIfInBounds i b)) (start, bytes)).2

end ScriptHost
