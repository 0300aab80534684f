/-!
# Script text

The text of the script language is a sequence of 16-bit units, in which a surrogate may stand
alone.  Text that pairs all its surrogates is kept as a `String`; the rest is kept by its units.

* `Units.ofString`, `Units.toString?`: between Unicode text and its 16-bit units;
* `Units.le`: the order of text by its units;
* `Text`: script text, with `append`, `length` and `utf8Size`;
* `Text.toUnicode`: the Unicode text, or the place of the first surrogate that stands alone;
* `clip`: a prefix of a string that fits in a given number of bytes.
-/

namespace ScriptHost

namespace Units

/-! ### Units of Unicode text -/

/-- The one or two units of a character. -/
def ofChar (c : Char) : List UInt16 :=
  let n := c.toNat
  if n < 0x10000 then [UInt16.ofNat n]
  else [UInt16.ofNat (0xD800 + (n - 0x10000) / 1024), UInt16.ofNat (0xDC00 + (n - 0x10000) % 1024)]

def ofChars (cs : List Char) : List UInt16 := cs.flatMap ofChar

/-- The units of a string. -/
def ofString (s : String) : List UInt16 := ofChars s.toList

def isHigh (u : UInt16) : Bool := 0xD800 ≤ u.toNat && u.toNat < 0xDC00
def isLow (u : UInt16) : Bool := 0xDC00 ≤ u.toNat && u.toNat < 0xE000

/-- The character of a surrogate pair. -/
def pair (high low : UInt16) : Char :=
  Char.ofNat (0x10000 + (high.toNat - 0xD800) * 1024 + (low.toNat - 0xDC00))

/-- The place after the unit at a place, or after the pair that begins there if `points` says so. -/
def placeAfter (us : Array UInt16) (points : Bool) (i : Nat) : Nat :=
  match us[i]?, us[i + 1]? with
  | some u, some v => if points && isHigh u && isLow v then i + 2 else i + 1
  | _, _ => i + 1

/-- The characters of a sequence of units, unless a surrogate stands alone. -/
def toChars? : List UInt16 → Option (List Char)
  | [] => some []
  | [u] => if isHigh u || isLow u then none else some [Char.ofNat u.toNat]
  | u :: v :: rest =>
    if isHigh u then
      if isLow v then (toChars? rest).map (pair u v :: ·) else none
    else if isLow u then none
    else (toChars? (v :: rest)).map (Char.ofNat u.toNat :: ·)

/-- The string of a sequence of units, unless a surrogate stands alone. -/
def toString? (us : List UInt16) : Option String := (toChars? us).map String.ofList

/-- The bytes that a unit outside a pair takes in three-byte form at most. -/
def unitSize (u : UInt16) : Nat := if u.toNat < 0x80 then 1 else if u.toNat < 0x800 then 2 else 3

/-- The bytes before the first surrogate that stands alone, if there is one. -/
def loneSurrogate? : List UInt16 → Option Nat
  | [] => none
  | [u] => if isHigh u || isLow u then some 0 else none
  | u :: v :: rest =>
    if isHigh u then
      if isLow v then (loneSurrogate? rest).map (4 + ·) else some 0
    else if isLow u then some 0
    else (loneSurrogate? (v :: rest)).map (unitSize u + ·)

/-- Order by units, a proper prefix first. -/
def le : List UInt16 → List UInt16 → Bool
  | [], _ => true
  | _ :: _, [] => false
  | a :: as, b :: bs => if a < b then true else if b < a then false else le as bs

/-- The characters of units, where a surrogate that stands alone is kept as it is. -/
def toPoints : List UInt16 → List Nat
  | [] => []
  | [u] => [u.toNat]
  | u :: v :: rest =>
    if isHigh u && isLow v then (pair u v).toNat :: toPoints rest
    else u.toNat :: toPoints (v :: rest)

/-- The units of a code point. -/
def ofPoint (n : Nat) : List UInt16 :=
  if n < 0x10000 then [UInt16.ofNat n] else ofChar (Char.ofNat n)

end Units

/-! ### Text -/

/-- Script text: Unicode text, or units among which a surrogate stands alone. -/
inductive Text
  | unicode (s : String)
  | broken (units : List UInt16)
  deriving DecidableEq, Repr, Inhabited

namespace Text

/-- The text with the given units. -/
def ofUnits (us : List UInt16) : Text :=
  match Units.toString? us with
  | some s => .unicode s
  | none => .broken us

def units : Text → List UInt16
  | .unicode s => Units.ofString s
  | .broken us => us

/-- Two texts in a row.  A surrogate that ends the first may pair with one that starts the
second. -/
def append : Text → Text → Text
  | .unicode s, .unicode t => .unicode (s ++ t)
  | a, b => .ofUnits (a.units ++ b.units)

instance : Append Text := ⟨append⟩

/-- A text `n` times in a row. -/
def replicate (n : Nat) : Text → Text
  | .unicode s => .unicode (n.fold (fun _ _ acc => acc ++ s) "")
  | .broken us => .ofUnits (List.replicate n us).flatten

/-- The number of units. -/
def length : Text → Nat
  | .unicode s => s.foldl (fun n c => if c.toNat < 0x10000 then n + 1 else n + 2) 0
  | .broken us => us.length

def isEmpty : Text → Bool
  | .unicode s => s.isEmpty
  | .broken us => us.isEmpty

/-- The Unicode text, or the number of bytes before the first surrogate that stands alone. -/
def toUnicode : Text → Except Nat String
  | .unicode s => .ok s
  | .broken us =>
    match Units.toString? us with
    | some s => .ok s
    | none => .error ((Units.loneSurrogate? us).getD 0)

/-- The unit at a place, as text. -/
def unitAt? (t : Text) (i : Nat) : Option Text := t.units[i]?.map fun u => .ofUnits [u]

end Text

/-! ### Clipping -/

/-- The characters that fit in `room` bytes. -/
def clipChars : Nat → List Char → List Char
  | _, [] => []
  | room, c :: rest =>
    if c.utf8Size ≤ room then c :: clipChars (room - c.utf8Size) rest else []

/-- The prefix of a string that fits in `room` bytes. -/
def clip (room : Nat) (s : String) : String :=
  if s.utf8ByteSize ≤ room then s else String.ofList (clipChars room s.toList)

end ScriptHost
