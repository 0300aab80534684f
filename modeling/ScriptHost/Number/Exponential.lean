import ScriptHost.Number.Arithmetic

/-!
# Exponentials near one

The exponential less one and the logarithm of one more, which lose no digits near zero.  Each takes
the whole multiples of the logarithm of two off its argument and meets the rest by a rational
approximation in machine numbers, so the last bit may be off by one.

* `Double.toFloat`, `Double.ofFloat`: doubles as machine numbers;
* `Exponential.expMinusOne`, `Exponential.logOnePlus`: the two functions.
-/

namespace ScriptHost

/-- The machine's number. -/
def Double.toFloat (d : Double) : Float := Float.ofBits d.bits

/-- The double that the machine has for a number. -/
def Double.ofFloat (x : Float) : Double := if x.isNaN then .nan else ⟨x.toBits⟩

namespace Exponential

/-- The upper half of a number's bits, without the sign. -/
def upper (x : Float) : Nat := x.toBits.toNat / twoTo 32 % twoTo 31

/-- A power of two as a number. -/
def powerOfTwo (k : Int) : Float := (Double.ofFields false (k + 1023).toNat 0).toFloat

/-- A number times a power of two, by its exponent bits. -/
def scaled (x : Float) (k : Int) : Float :=
  let bits : Int := (x.toBits.toNat : Int) + k * twoTo 52
  Float.ofBits (UInt64.ofNat (bits % twoTo 64).toNat)

/-- The logarithm of two, but for its last bits. -/
def logTwo : Float := 6.93147180369123816490e-01

/-- The last bits of the logarithm of two. -/
def logTwoRest : Float := 1.90821492927058770002e-10

/-- An argument less so many times the logarithm of two, and what rounding took off it. -/
structure Reduced where
  times : Int
  rest : Float
  lack : Float

/-- A number less so many times the logarithm of two. -/
def Reduced.of (x : Float) (k : Int) : Reduced :=
  let high := x - Float.ofInt k * logTwo
  let low := Float.ofInt k * logTwoRest
  let rest := high - low
  ⟨k, rest, (high - rest) - low⟩

/-- A number less the nearest multiple of the logarithm of two. -/
def Reduced.nearest (x : Float) : Reduced :=
  if upper x ≤ 0x3fd62e42 then ⟨0, x, 0⟩
  else if upper x < 0x3ff0a2b2 then .of x (if x < 0 then -1 else 1)
  else
    let k := 1.44269504088896338700 * x + (if x < 0 then -0.5 else 0.5)
    .of x (Double.ofFloat k).toIntTrunc

/-- The exponential less one, of a number whose multiple of the logarithm of two is known. -/
def Reduced.expMinusOne (r : Reduced) : Float :=
  let x := r.rest
  let half := 0.5 * x
  let z := x * half
  let zz := z * z
  let q := (1 + z * -3.33333333333331316428e-02)
    + zz * (1.58730158725481460165e-03 + z * -7.93650757867487942473e-05)
    + zz * zz * (4.00821782732936239552e-06 + z * -2.01099218183624371326e-07)
  let t := 3 - q * half
  let e := z * ((q - t) / (6 - x * t))
  if r.times = 0 then x - (x * e - z)
  else
    let e := (x * (e - r.lack) - r.lack) - z
    if r.times = -1 then 0.5 * (x - e) - 0.5
    else if r.times = 1 then if x < -0.25 then -2 * (e - (x + 0.5)) else 1 + 2 * (x - e)
    else if r.times < 0 || 56 < r.times then scaled (1 - (e - x)) r.times - 1
    else if r.times < 20 then scaled ((1 - powerOfTwo (-r.times)) - (e - x)) r.times
    else scaled ((x - (e + powerOfTwo (-r.times))) + 1) r.times

/-- The exponential less one. -/
def expMinusOne (x : Float) : Float :=
  if x.isNaN || upper x < 0x3c900000 then x
  else if 709.782712893383973096 < x then 1 / 0
  else if x < 0 && 0x4043687a ≤ upper x then -1
  else (Reduced.nearest x).expMinusOne

/-- A number `2^times · (1 + rest)`, and what rounding took off the rest. -/
def Reduced.ofOnePlus (x : Float) : Reduced :=
  if if x < 0 then upper x ≤ 0x3fd2bec3 else upper x < 0x3fda827a then ⟨0, x, 0⟩
  else
    let y := if upper x < 0x43400000 then 1 + x else x
    let k : Int := (upper y / twoTo 20 : Nat) - 1023
    let lack :=
      if upper x < 0x43400000 then (if 0 < k then 1 - (y - x) else x - (y - 1)) / y else 0
    let k := if upper y % twoTo 20 < 0x6a09e then k else k + 1
    ⟨k, scaled y (-k) - 1, lack⟩

/-- The logarithm of a number `2^times · (1 + rest)`. -/
def Reduced.log (r : Reduced) : Float :=
  let f := r.rest
  let square := 0.5 * f * f
  let high := Float.ofInt r.times * logTwo
  let low := Float.ofInt r.times * logTwoRest + r.lack
  if f == 0 then if r.times = 0 then 0 else high + low
  else if r.times ≠ 0 && upper f < 0x3eb00000 then
    high - ((square * (1 - 0.66666666666666666 * f) - low) - f)
  else
    let s := f / (2 + f)
    let z := s * s
    let zz := z * z
    let q := z * 6.666666666666735130e-01
      + zz * (3.999999999940941908e-01 + z * 2.857142874366239149e-01)
      + zz * zz * (2.222219843214978396e-01 + z * 1.818357216161805012e-01)
      + zz * zz * zz * (1.531383769920937332e-01 + z * 1.479819860511658591e-01)
    if r.times = 0 then f - (square - s * (square + q))
    else high - ((square - (s * (square + q) + low)) - f)

/-- The logarithm of one more. -/
def logOnePlus (x : Float) : Float :=
  if x.isNaN || x == 1 / 0 || upper x < 0x3c900000 then x
  else if x ≤ -1 then if x == -1 then -1 / 0 else 0 / 0
  else if upper x < 0x3e200000 then x - x * x * 0.5
  else (Reduced.ofOnePlus x).log

end Exponential

end ScriptHost
