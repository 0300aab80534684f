import ScriptHost.Number.Arithmetic

/-!
# Functions rounded once

The value of each function is known as closely as it takes, in whole numbers, and then rounded to
the nearest double.

* `Double.sumOf`: the sum of a list, taken exactly;
* `Double.hypotenuse`: the length of a vector with two parts;
* `Double.cubeRoot`: the cube root.
-/

namespace ScriptHost

namespace Double

/-! ### Sums -/

/-- The least exponent of a finite double. -/
def leastExponent : Int := -1074

/-- A finite double in units of the least double. -/
def units (d : Double) : Int :=
  match d.decode with
  | .finite neg m e => unitsOf neg m e leastExponent
  | _ => 0

/-- The double nearest to so many units of the least double. -/
def ofUnits (n : Int) : Double := ofDyadic (n < 0) n.natAbs leastExponent

/-- The sum of a list, rounded once; it is the negative zero if each number is that. -/
def sumOf (ds : List Double) : Double :=
  let endless (neg : Bool) := ds.contains (infinity neg)
  if ds.any isNaN || (endless false && endless true) then nan
  else if endless false || endless true then infinity (endless true)
  else if ds.all fun d => d == zero true then zero true
  else ofUnits (ds.foldl (fun sum d => sum + d.units) 0)

/-! ### Roots -/

/-- The length of a vector with two parts; an infinite part wins over a NaN. -/
def hypotenuse (a b : Double) : Double :=
  match a.decode, b.decode with
  | .infinite _, _ | _, .infinite _ => infinity false
  | .nan, _ | _, .nan => nan
  | .finite .., .finite .. =>
    let square : Nat := a.units.natAbs * a.units.natAbs + b.units.natAbs * b.units.natAbs
    -- a root of so many bits more than a double has rounds as the true one does
    let n := square * twoTo 128
    let root := sqrt.natRoot n
    let sticky := if root * root = n then 0 else 1
    ofDyadic false (2 * root + sticky) (leastExponent - 65)

/-- The greatest number whose cube is at most `n`, found bit by bit. -/
def natCubeRoot (n : Nat) : Nat :=
  (List.range (n.log2 / 3 + 1)).reverse.foldl (fun r i =>
    let t := r + twoTo i
    if t * t * t ≤ n then t else r) 0

/-- The cube root, rounded to nearest. -/
def cubeRoot (d : Double) : Double :=
  match d.decode with
  | .finite neg m e =>
    if m = 0 then d
    else
      let shift : Nat := 180 + (e % 3).toNat
      let n := m * twoTo shift
      let root := natCubeRoot n
      let sticky := if root * root * root = n then 0 else 1
      ofDyadic neg (2 * root + sticky) ((e - shift) / 3 - 1)
  | _ => d

end Double

end ScriptHost
