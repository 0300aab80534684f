import ScriptHost.Number.Natural

/-!
# Double-precision numbers

Numbers of the script language and the fractional numbers of documents, as 64-bit words
read exactly.  A finite double is `±m · 2^e` with `m < 2^53`, so every question about it is
answered in integer arithmetic.

* `Double`, `Double.decode`: the word and what it stands for;
* `Double.ofRatio`: the double nearest to a quotient, ties to the even neighbour;
* `Double.ofInt`, `Double.ofDecimal`: the nearest double to an integer and to a decimal;
* `Double.toInt?`: the integer a double is exactly equal to, if any;
* `Double.safeInt?`: the same, restricted to the integers that no rounding can produce.
-/

namespace ScriptHost

/-- A double-precision number, given by its 64-bit word. -/
structure Double where
  bits : UInt64
  deriving DecidableEq, Repr, Inhabited

namespace Double

/-- What a word stands for. -/
inductive Class
  | nan
  | infinite (negative : Bool)
  | finite (negative : Bool) (mantissa : Nat) (exponent : Int)
  deriving DecidableEq, Repr

/-! ### Words -/

/-- The sign bit. -/
def negative (d : Double) : Bool := d.bits.toNat / twoTo 63 == 1

/-- The eleven exponent bits. -/
def exponentField (d : Double) : Nat := d.bits.toNat / twoTo 52 % 2048

/-- The fifty-two fraction bits. -/
def fractionField (d : Double) : Nat := d.bits.toNat % twoTo 52

/-- The number a word stands for, as `±mantissa · 2^exponent`. -/
def decode (d : Double) : Class :=
  match d.exponentField with
  | 2047 => if d.fractionField = 0 then .infinite d.negative else .nan
  | 0 => .finite d.negative d.fractionField (-1074)
  | e => .finite d.negative (twoTo 52 + d.fractionField) ((e : Int) - 1075)

/-- The word with the given sign, exponent and fraction fields. -/
def ofFields (neg : Bool) (exponentField fractionField : Nat) : Double :=
  ⟨UInt64.ofNat ((if neg then twoTo 63 else 0) + exponentField * twoTo 52 + fractionField)⟩

def nan : Double := ofFields false 2047 (twoTo 51)
def infinity (neg : Bool) : Double := ofFields neg 2047 0
def zero (neg : Bool) : Double := ofFields neg 0 0

/-- The double `±m · 2^e`, where `m ≤ 2^53` and `m · 2^e` needs no rounding: either `m` has
all fifty-three bits or `e` is the least exponent.  Past the greatest exponent, infinity. -/
def pack (neg : Bool) (m : Nat) (e : Int) : Double :=
  if m < twoTo 52 then ofFields neg 0 m
  else
    let (m, e) := if m = twoTo 53 then (twoTo 52, e + 1) else (m, e)
    if e > 971 then infinity neg else ofFields neg (e + 1075).toNat (m - twoTo 52)

/-! ### Rounding -/

/-- The integer nearest to `num / den`, a tie going to the even one. -/
def roundDiv (num den : Nat) : Nat :=
  let q := num / den
  let r := num % den
  if 2 * r < den then q
  else if 2 * r > den then q + 1
  else if q % 2 = 0 then q else q + 1

/-- The exponent at which `num / den` has fifty-three bits before the point, but no less than
the least exponent. -/
def gridExponent (num den : Nat) : Int :=
  let e : Int := (num.log2 : Int) - den.log2 - 52
  -- the quotient of two numbers has one bit fewer than the difference says, or exactly as many
  let below :=
    if e ≥ 0 then num < den * twoTo (52 + e.toNat) else num * twoTo (-e).toNat < den * twoTo 52
  max (if below then e - 1 else e) (-1074)

/-- The double nearest to `±num / den`, a tie going to the even neighbour. -/
def ofRatio (neg : Bool) (num den : Nat) : Double :=
  if num = 0 then zero neg
  else
    let e := gridExponent num den
    let m :=
      if e ≥ 0 then roundDiv num (den * twoTo e.toNat) else roundDiv (num * twoTo (-e).toNat) den
    pack neg m e

/-- The double nearest to an integer. -/
def ofInt (n : Int) : Double := ofRatio (n < 0) n.natAbs 1

/-- The double nearest to `±digits · 10^exponent`.  Exponents far outside the range of doubles
are decided without computing the power. -/
def ofDecimal (neg : Bool) (digits : Nat) (exponent : Int) : Double :=
  if digits = 0 then zero neg
  else if exponent > 400 then infinity neg
  else if exponent ≥ 0 then ofRatio neg (digits * tenTo exponent.toNat) 1
  else if exponent + digits.log2 < -1200 then zero neg
  else ofRatio neg digits (tenTo (-exponent).toNat)

/-! ### Integral values -/

/-- The integer that `±m · 2^e` equals, if it is one. -/
def integral? (neg : Bool) (m : Nat) (e : Int) : Option Int :=
  let magnitude : Option Nat :=
    if e ≥ 0 then some (m * twoTo e.toNat)
    else if m % twoTo (-e).toNat = 0 then some (m / twoTo (-e).toNat) else none
  magnitude.map fun n => if neg then -(n : Int) else n

/-- The integer a double equals exactly, if any.  Both zeros give `0`. -/
def toInt? (d : Double) : Option Int :=
  match d.decode with
  | .finite neg m e => integral? neg m e
  | _ => none

/-- The largest magnitude below which distinct integers stay distinct as doubles. -/
def maxSafeInteger : Nat := twoTo 53 - 1

/-- The integer a double equals, when its magnitude is at most `maxSafeInteger`. -/
def safeInt? (d : Double) : Option Int :=
  d.toInt?.filter fun n => n.natAbs ≤ maxSafeInteger

/-- Neither infinite nor a NaN. -/
def isFinite (d : Double) : Bool :=
  match d.decode with
  | .finite .. => true
  | _ => false

def isNaN (d : Double) : Bool := d.decode == .nan

/-- Whether the number is a whole one that fits in 32 bits with sign; the negative zero is not. -/
def isInt32 (d : Double) : Bool :=
  match d.toInt? with
  | some n => -(twoTo 31 : Int) ≤ n && n < twoTo 31 && !(n == 0 && d.negative)
  | none => false

/-! ### Equality -/

/-- Equality of numbers: the two zeros are equal and a NaN equals nothing. -/
def numEq (a b : Double) : Bool :=
  !a.isNaN && !b.isNaN && (a == b || (a.toInt? == some 0 && b.toInt? == some 0))

end Double

end ScriptHost
