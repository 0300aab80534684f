import ScriptHost.Number.Arithmetic
import ScriptHost.Text.Digits

/-!
# Decimal numerals in 64 bits

A quick way to read a decimal numeral: its digits as one word, scaled by a power of ten in double
arithmetic.  The word is rounded and the scaling rounds again, so the result may miss the nearest
double by a unit in the last place.

* `Scaled`: a word and a power of ten;
* `Scaled.ofDigits`, `Scaled.withFraction`: digits before and after the point; those that do not
  fit the word are dropped;
* `Scaled.toDouble?`: the double, unless it is too large.
-/

namespace ScriptHost

/-- The number `significand · 10^exponent`. -/
structure Scaled where
  significand : Nat
  exponent : Int
  deriving DecidableEq, Repr

namespace Scaled

/-- A word extended by digits up to the first that makes it too large, and the digits left. -/
def absorb : Nat → List Char → Nat × List Char
  | n, [] => (n, [])
  | n, d :: ds =>
    let m := 10 * n + Digits.decimal [d]
    if m < twoTo 64 then absorb m ds else (n, d :: ds)

/-- The number that digits spell; each digit that is dropped counts as a zero. -/
def ofDigits (ds : List Char) : Scaled :=
  let (n, dropped) := absorb 0 ds
  ⟨n, dropped.length⟩

/-- The number with digits after its point; those that are dropped count for nothing. -/
def withFraction (s : Scaled) (ds : List Char) : Scaled :=
  let (n, dropped) := absorb s.significand ds
  ⟨n, s.exponent - (ds.length - dropped.length : Nat)⟩

/-- The number times a power of ten. -/
def shift (s : Scaled) (e : Int) : Scaled := ⟨s.significand, s.exponent + e⟩

/-- The double nearest to a power of ten. -/
def powerOfTen (n : Nat) : Double := .ofDecimal false 1 n

/-- The greatest power of ten that is a double. -/
def maxPower : Nat := 308

/-- A double times a power of ten, unless it is too large.  A power that is no double is divided
away in steps, of which no double takes more than `fuel`. -/
def scale? : Nat → Double → Int → Option Double
  | 0, d, _ => some d
  | fuel + 1, d, e =>
    if e.natAbs ≤ maxPower then
      if 0 ≤ e then
        let p := d.mul (powerOfTen e.natAbs)
        if p.isFinite then some p else none
      else some (d.div (powerOfTen e.natAbs))
    else if d.toInt? = some 0 then some d
    else if 0 ≤ e then none
    else scale? fuel (d.div (powerOfTen maxPower)) (e + maxPower)

/-- The double that the number stands for, unless it is too large. -/
def toDouble? (neg : Bool) (s : Scaled) : Option Double :=
  (scale? 4 (.ofInt s.significand) s.exponent).map fun d => if neg then d.neg else d

end Scaled

end ScriptHost
