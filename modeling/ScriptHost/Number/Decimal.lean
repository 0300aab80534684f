import ScriptHost.Number.Double

/-!
# Decimal forms of doubles

* `Decimal`: a decimal numeral, given by its significant digits and the place of its point;
* `Double.shortest?`: the fewest digits that read back as the same double, and of those the
  numeral nearest to it;
* `NumberStyle`: how a numeral is laid out (where positional notation ends, whether a whole
  number keeps a fraction, how zero, infinity and a NaN are spelled);
* `Double.render`: the text of a double in a style.
-/

namespace ScriptHost

/-- The numeral `0.d₁d₂… · 10^point`, with no trailing zero among its digits. -/
structure Decimal where
  digits : List Char
  point : Int
  deriving DecidableEq, Repr

namespace Decimal

/-- The decimal digits of a natural number. -/
def digitsOf (n : Nat) : List Char := Nat.toDigits 10 n

/-- The exponent in scientific notation: the place of the first digit. -/
def exponent (d : Decimal) : Int := d.point - 1

/-- The number `n · 10^place` without its trailing zeros. -/
def ofScaled (n : Nat) (place : Int) : Decimal :=
  let all := digitsOf n
  ⟨(all.reverse.dropWhile (· == '0')).reverse, place + all.length⟩

end Decimal

namespace Double

/-! ### The shortest numeral -/

/-- The reals that round to `m · 2^e`: those strictly between `lower` and `upper`, both over the
denominator `den`, the two ends included when `m` is even. -/
structure Interval where
  value : Nat
  lower : Nat
  upper : Nat
  den : Nat
  closed : Bool

/-- The interval around `m · 2^e`.  The gap below is half as wide at a power of two. -/
def interval (m : Nat) (e : Int) : Interval :=
  let scale := if e ≥ 0 then twoTo e.toNat else 1
  let den := 4 * (if e ≥ 0 then 1 else twoTo (-e).toNat)
  let below := if m = twoTo 52 ∧ e > -1074 then 1 else 2
  { value := 4 * m * scale
    lower := (4 * m - below) * scale
    upper := (4 * m + 2) * scale
    den := den
    closed := m % 2 == 0 }

/-- Whether `n · 10^place` lies in the interval. -/
def Interval.contains (i : Interval) (n : Nat) (place : Int) : Bool :=
  let (x, den) :=
    if place ≥ 0 then (n * tenTo place.toNat * i.den, 1) else (n * i.den, tenTo (-place).toNat)
  let lower := i.lower * den
  let upper := i.upper * den
  if i.closed then lower ≤ x && x ≤ upper else lower < x && x < upper

/-- The least number of places, from `x` on, that brings `num / den` up to one. -/
def placesBelowOne (num den : Nat) : Nat → Nat → Nat
  | 0, x => x
  | fuel + 1, x => if num * tenTo x ≥ den then x else placesBelowOne num den fuel (x + 1)

/-- The place of the first digit of `num / den`: the greatest `x` with `10^x ≤ num / den`.
The least double is above `10^-324`. -/
def leadingPlace (num den : Nat) : Int :=
  if num ≥ den then ((Decimal.digitsOf (num / den)).length : Int) - 1
  else -((placesBelowOne num den 400 1 : Nat) : Int)

/-- The numeral with a last digit at `place` that lies in the interval and is nearest to its
value, a tie going to the even digit. -/
def Interval.nearestAt? (i : Interval) (place : Int) : Option Nat :=
  let (num, den) :=
    if place ≥ 0 then (i.value, i.den * tenTo place.toNat)
    else (i.value * tenTo (-place).toNat, i.den)
  let floor := num / den
  let rest := num % den
  let low := i.contains floor place && floor != 0
  let high := i.contains (floor + 1) place
  match low, high with
  | false, false => none
  | true, false => some floor
  | false, true => some (floor + 1)
  | true, true =>
    if 2 * rest < den then some floor
    else if 2 * rest > den then some (floor + 1)
    else if floor % 2 = 0 then some floor else some (floor + 1)

/-- The first grid, from coarse to fine, that has a point in the interval. -/
def Interval.shortest (i : Interval) : Nat → Int → Decimal
  | 0, place => .ofScaled (i.nearestAt? place |>.getD 0) place
  | fuel + 1, place =>
    match i.nearestAt? place with
    | some n => .ofScaled n place
    | none => i.shortest fuel (place - 1)

/-- The fewest digits that read back as the double, and of those the nearest numeral.
Seventeen digits always suffice; zero and the non-finite doubles have no such numeral. -/
def shortest? (d : Double) : Option Decimal :=
  match d.decode with
  | .finite _ m e =>
    if m = 0 then none
    else
      let i := interval m e
      let place := leadingPlace i.value i.den
      some (i.shortest 17 place)
  | _ => none

end Double

/-! ### Layout -/

/-- How a numeral is laid out as text. -/
structure NumberStyle where
  /-- The exponents that are written positionally. -/
  positional : Int → Bool
  /-- The fraction given to a number that has none. -/
  wholeSuffix : String
  zero : String
  negativeZero : String
  infinity : String
  negativeInfinity : String
  nan : String

/-- Documents write exponents from -5 to 15 positionally and mark every double with a fraction.
A double that no document can hold is written `null`. -/
def NumberStyle.document : NumberStyle where
  positional x := -5 ≤ x && x ≤ 15
  wholeSuffix := ".0"
  zero := "0.0"
  negativeZero := "-0.0"
  infinity := "null"
  negativeInfinity := "null"
  nan := "null"

/-- Error messages write every number positionally. -/
def NumberStyle.message : NumberStyle where
  positional _ := true
  wholeSuffix := ""
  zero := "0"
  negativeZero := "-0"
  infinity := "inf"
  negativeInfinity := "-inf"
  nan := "NaN"

/-- Scripts write exponents from -6 to 20 positionally and have one zero. -/
def NumberStyle.script : NumberStyle where
  positional x := -6 ≤ x && x ≤ 20
  wholeSuffix := ""
  zero := "0"
  negativeZero := "0"
  infinity := "Infinity"
  negativeInfinity := "-Infinity"
  nan := "NaN"

namespace Decimal

/-- Positional notation: the digits with zeros on the side where the point lies outside them. -/
def positional (d : Decimal) (wholeSuffix : String) : String :=
  let n := d.digits.length
  if d.point ≤ 0 then "0." ++ String.ofList (List.replicate (-d.point).toNat '0' ++ d.digits)
  else if (n : Int) ≤ d.point then
    String.ofList (d.digits ++ List.replicate (d.point.toNat - n) '0') ++ wholeSuffix
  else
    String.ofList (d.digits.take d.point.toNat) ++ "."
      ++ String.ofList (d.digits.drop d.point.toNat)

/-- Scientific notation, `d.ddde+x`. -/
def scientific (d : Decimal) : String :=
  let head := String.ofList (d.digits.take 1)
  let tail := d.digits.drop 1
  let fraction := if tail.isEmpty then "" else "." ++ String.ofList tail
  let sign := if d.exponent < 0 then "e-" else "e+"
  head ++ fraction ++ sign ++ toString d.exponent.natAbs

/-- A numeral in a style. -/
def render (d : Decimal) (style : NumberStyle) : String :=
  if style.positional d.exponent then d.positional style.wholeSuffix else d.scientific

end Decimal

/-- The text of a double in a style. -/
def Double.render (d : Double) (style : NumberStyle) : String :=
  match d.decode with
  | .nan => style.nan
  | .infinite neg => if neg then style.negativeInfinity else style.infinity
  | .finite neg _ _ =>
    match d.shortest? with
    | none => if neg then style.negativeZero else style.zero
    | some numeral => (if neg then "-" else "") ++ numeral.render style

end ScriptHost
