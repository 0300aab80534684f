import ScriptHost.Number.Arithmetic
import ScriptHost.Number.Decimal
import ScriptHost.Text.Digits

/-!
# Doubles with a given number of digits

* `Double.fixed`: so many digits after the point;
* `Double.significant`: so many digits in all, with the place of the first;
* `Double.exponential`, `Double.precise`: texts with so many digits in all;
* `Double.inBase`: the text in a base other than ten.

A tie is rounded away from zero, on the exact value.
-/

namespace ScriptHost

/-- The whole number nearest to a quotient, the greater one of two that are equally near. -/
def roundUpDiv (num den : Nat) : Nat := (2 * num + den) / (2 * den)

namespace Double

/-- The magnitude of a finite double as a quotient. -/
def magnitude (d : Double) : Nat × Nat :=
  match d.decode with
  | .finite _ m e => if 0 ≤ e then (m * twoTo e.toNat, 1) else (m, twoTo (-e).toNat)
  | _ => (0, 1)

/-- Digits with zeros in front up to a length. -/
def padded (length : Nat) (ds : List Char) : List Char :=
  List.replicate (length - ds.length) '0' ++ ds

/-- The sign of a number other than zero. -/
def minus (d : Double) : String := if d.negative && !d.isZero then "-" else ""

/-- The text with so many digits after the point. -/
def fixed (d : Double) (places : Nat) : String :=
  let (num, den) := d.magnitude
  let ds := padded (places + 1) (Decimal.digitsOf (roundUpDiv (num * tenTo places) den))
  let whole := ds.take (ds.length - places)
  let fraction := ds.drop (ds.length - places)
  d.minus ++ String.ofList whole ++ (if places = 0 then "" else "." ++ String.ofList fraction)

/-- The digits of a number, so many, and the place of the first. -/
def significant (d : Double) (count : Nat) : List Char × Int :=
  let (num, den) := d.magnitude
  if num = 0 then (List.replicate count '0', 0)
  else
    let place := leadingPlace num den
    let shift := (count : Int) - 1 - place
    let n :=
      if 0 ≤ shift then roundUpDiv (num * tenTo shift.toNat) den
      else roundUpDiv num (den * tenTo (-shift).toNat)
    let ds := Decimal.digitsOf n
    if ds.length > count then (ds.take count, place + 1) else (ds, place)

/-- Digits in scientific notation. -/
def scientificText (ds : List Char) (place : Int) : String :=
  let fraction := ds.drop 1
  String.ofList (ds.take 1)
    ++ (if fraction.isEmpty then "" else "." ++ String.ofList fraction)
    ++ (if place < 0 then "e-" else "e+") ++ toString place.natAbs

/-- The text in scientific notation with so many digits after the point, or with as few as
possible. -/
def exponential (d : Double) (places : Option Nat) : String :=
  let (ds, place) := match places with
    | some n => d.significant (n + 1)
    | none =>
      match d.shortest? with
      | some s => (s.digits, s.exponent)
      | none => (['0'], 0)
  d.minus ++ scientificText ds place

/-- The text with so many digits in all, positional where the number is neither too small nor too
great for that. -/
def precise (d : Double) (count : Nat) : String :=
  let (ds, place) := d.significant count
  if place < -6 || (count : Int) ≤ place then d.minus ++ scientificText ds place
  else if place < 0 then
    d.minus ++ "0." ++ String.ofList (List.replicate (-place - 1).toNat '0' ++ ds)
  else
    let whole := ds.take (place.toNat + 1)
    let fraction := ds.drop (place.toNat + 1)
    d.minus ++ String.ofList whole
      ++ (if fraction.isEmpty then "" else "." ++ String.ofList fraction)

/-! ### Other bases -/

/-- The digits of a fraction in a base, as long as they tell anything about the number; also what
is left of the fraction. -/
def fractionDigits (base : Nat) : Nat → Double → Nat → List Nat → List Nat × Double
  | 0, fraction, _, ds => (ds.reverse, fraction)
  | fuel + 1, fraction, n, ds =>
    if fraction.isZero || n > maxSafeInteger / 2 then (ds.reverse, fraction)
    else
      let scaled := fraction.mul (.ofInt base)
      let digit := scaled.trunc
      let k := digit.toIntTrunc.toNat
      fractionDigits base fuel (scaled.sub digit) (n * base + k) (k :: ds)

/-- Digits, the last first, with one added to the last, and whether that leaves one to carry. -/
def increment (base : Nat) : List Nat → List Nat × Bool
  | [] => ([], true)
  | k :: rest => if k + 1 = base then increment base rest else ((k + 1) :: rest, false)

/-- How many powers of a base, from the given one on, stay below `2^1074`: so many digits reach the
last bit of any double. -/
def placesBelow (base : Nat) : Nat → Nat → Nat
  | 0, _ => 0
  | fuel + 1, power =>
    if power < twoTo 1074 then placesBelow base fuel (power * base) + 1 else 0

/-- The digits of a number too great for its last digits to be told, with zeros in their place. -/
def hugeDigits (base : Nat) : Nat → Double → List Char → List Char
  | 0, _, ds => ds
  | fuel + 1, d, ds =>
    let digit (d : Double) : Char := Digits.ofValue (d.toIntTrunc.toNat % base)
    if d.lt (.ofInt base) then digit d :: ds
    else
      let rest := (d.div (.ofInt base)).trunc
      hugeDigits base fuel rest ((if rest.lt (.ofInt maxSafeInteger) then digit d else '0') :: ds)

/-- The text in a base other than ten. -/
def inBase (d : Double) (base : Nat) : String :=
  let whole := d.toIntTrunc.natAbs
  let fraction := d.abs.sub d.abs.trunc
  let wholeText (n : Nat) : String := String.ofList (Digits.spell base n)
  if whole > maxSafeInteger then d.minus ++ String.ofList (hugeDigits base 1100 d.abs [])
  else if fraction.isZero then d.minus ++ wholeText whole
  else
    let (ds, rest) := fractionDigits base (placesBelow base 1100 1) fraction whole []
    let roundUp := ((.ofInt base : Double).div (.ofInt 2)).compare? (rest.mul (.ofInt base))
      != some .gt
    let (back, carry) := if roundUp then increment base ds.reverse
      else (ds.reverse.dropWhile (· == 0), false)
    let whole := if carry then whole + 1 else whole
    let places := back.reverse.map Digits.ofValue
    d.minus ++ wholeText whole ++ (if places.isEmpty then "" else "." ++ String.ofList places)

end Double

end ScriptHost
