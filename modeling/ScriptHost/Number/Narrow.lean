import ScriptHost.Number.Arithmetic

/-!
# Binary numbers narrower than doubles

* `NarrowFormat`: a binary format with fewer bits than doubles have;
* `NarrowFormat.ofDouble`: the word of the nearest number of a format, ties to the even one;
* `NarrowFormat.toDouble`: the double that a word stands for.
-/

namespace ScriptHost

/-- A binary format: how many bits the fraction and the exponent have. -/
structure NarrowFormat where
  fractionBits : Nat
  exponentBits : Nat
  deriving DecidableEq, Repr

namespace NarrowFormat

/-- Numbers of 32 bits. -/
def single : NarrowFormat := ⟨23, 8⟩

/-- Numbers of 16 bits. -/
def half : NarrowFormat := ⟨10, 5⟩

/-- The exponent field of what is not finite. -/
def topField (f : NarrowFormat) : Nat := twoTo f.exponentBits - 1

/-- The exponent of the last bit of the least numbers. -/
def leastExponent (f : NarrowFormat) : Int :=
  2 - (twoTo (f.exponentBits - 1) : Int) - f.fractionBits

/-- The word with the given sign, exponent and fraction fields. -/
def ofFields (f : NarrowFormat) (neg : Bool) (exponentField fractionField : Nat) : Nat :=
  (if neg then twoTo (f.fractionBits + f.exponentBits) else 0)
    + exponentField * twoTo f.fractionBits + fractionField

/-- The word of `±m · 2^e`, where `m` has at most one bit more than a fraction, and either has all
of them or `e` is the least exponent. -/
def pack (f : NarrowFormat) (neg : Bool) (m : Nat) (e : Int) : Nat :=
  let unit := twoTo f.fractionBits
  if m < unit then f.ofFields neg 0 m
  else
    let (m, e) := if m = 2 * unit then (unit, e + 1) else (m, e)
    let field := (e - f.leastExponent + 1).toNat
    if f.topField ≤ field then f.ofFields neg f.topField 0 else f.ofFields neg field (m - unit)

/-- The word of the nearest number of a format, a tie going to the even one. -/
def ofDouble (f : NarrowFormat) (d : Double) : Nat :=
  match d.decode with
  | .nan => f.ofFields false f.topField (twoTo (f.fractionBits - 1))
  | .infinite neg => f.ofFields neg f.topField 0
  | .finite neg m e =>
    if m = 0 then f.ofFields neg 0 0
    else
      let x := max (e + m.log2 - f.fractionBits) f.leastExponent
      let n := if x ≤ e then m * twoTo (e - x).toNat else Double.roundDiv m (twoTo (x - e).toNat)
      f.pack neg n x

/-- The double that a word stands for. -/
def toDouble (f : NarrowFormat) (word : Nat) : Double :=
  let unit := twoTo f.fractionBits
  let neg := word / twoTo (f.fractionBits + f.exponentBits) == 1
  let fraction := word % unit
  let field := word / unit % twoTo f.exponentBits
  if field = f.topField then if fraction = 0 then .infinity neg else .nan
  else if field = 0 then .ofDyadic neg fraction f.leastExponent
  else .ofDyadic neg (unit + fraction) (f.leastExponent + field - 1)

end NarrowFormat

end ScriptHost
