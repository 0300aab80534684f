import ScriptHost.Number.Double

/-!
# Arithmetic on doubles

Each operation is carried out exactly on the numbers `±m · 2^e` and rounded once.

* `Double.neg`, `Double.abs`, `Double.add`, `Double.sub`, `Double.mul`, `Double.div`;
* `Double.rem`: the remainder of a division that goes toward zero;
* `Double.sqrt`: the square root;
* `Double.lt`, `Double.compare?`: the order, in which a NaN has no place;
* `Double.trunc`, `Double.floor`, `Double.ceil`, `Double.roundHalfUp`: whole numbers beside a
  number;
* `Double.toIntTrunc`: the whole part as an integer; `Double.wrap`: the same in so many bits.
-/

namespace ScriptHost

namespace Double

/-! ### Signs -/

/-- The double with the other sign. -/
def neg (d : Double) : Double :=
  if d.isNaN then d else ofFields (!d.negative) d.exponentField d.fractionField

/-- The double without its sign. -/
def abs (d : Double) : Double :=
  if d.isNaN then d else ofFields false d.exponentField d.fractionField

/-- Whether the double is one of the two zeros. -/
def isZero (d : Double) : Bool := d.exponentField = 0 && d.fractionField = 0

/-! ### Sums and products -/

/-- The double nearest to `±m · 2^e`. -/
def ofDyadic (neg : Bool) (m : Nat) (e : Int) : Double :=
  if 0 ≤ e then ofRatio neg (m * twoTo e.toNat) 1 else ofRatio neg m (twoTo (-e).toNat)

/-- The number `±m · 2^e` in units of `2^x`, where `x ≤ e`. -/
def unitsOf (neg : Bool) (m : Nat) (e x : Int) : Int :=
  let n : Int := (m * twoTo (e - x).toNat : Nat)
  if neg then -n else n

/-- The sum of two dyadic numbers over their common exponent, rounded to nearest. -/
def addFinite (n₁ : Bool) (m₁ : Nat) (e₁ : Int) (n₂ : Bool) (m₂ : Nat) (e₂ : Int) : Double :=
  let e := min e₁ e₂
  let sum := unitsOf n₁ m₁ e₁ e + unitsOf n₂ m₂ e₂ e
  if sum = 0 then zero (n₁ && n₂) else ofDyadic (sum < 0) sum.natAbs e

/-- The sum of two doubles, rounded to nearest. -/
def add (a b : Double) : Double :=
  match a.decode, b.decode with
  | .nan, _ | _, .nan => nan
  | .infinite n, .infinite k => if n = k then infinity n else nan
  | .infinite n, _ => infinity n
  | _, .infinite n => infinity n
  | .finite n₁ m₁ e₁, .finite n₂ m₂ e₂ => addFinite n₁ m₁ e₁ n₂ m₂ e₂

/-- The difference of two doubles, rounded to nearest. -/
def sub (a b : Double) : Double := a.add b.neg

/-- The product of two doubles, rounded to nearest. -/
def mul (a b : Double) : Double :=
  let s := a.negative != b.negative
  match a.decode, b.decode with
  | .nan, _ | _, .nan => nan
  | .infinite _, .infinite _ => infinity s
  | .infinite _, .finite _ m _ | .finite _ m _, .infinite _ => if m = 0 then nan else infinity s
  | .finite _ m₁ e₁, .finite _ m₂ e₂ => ofDyadic s (m₁ * m₂) (e₁ + e₂)

/-- The quotient of two doubles, rounded to nearest. -/
def div (a b : Double) : Double :=
  let s := a.negative != b.negative
  match a.decode, b.decode with
  | .nan, _ | _, .nan => nan
  | .infinite _, .infinite _ => nan
  | .infinite _, .finite .. => infinity s
  | .finite .., .infinite _ => zero s
  | .finite _ m₁ e₁, .finite _ m₂ e₂ =>
    if m₂ = 0 then if m₁ = 0 then nan else infinity s
    else
      let e := e₁ - e₂
      if 0 ≤ e then ofRatio s (m₁ * twoTo e.toNat) m₂ else ofRatio s m₁ (m₂ * twoTo (-e).toNat)

/-- The remainder of a division that goes toward zero; it has the sign of the dividend. -/
def rem (a b : Double) : Double :=
  match a.decode, b.decode with
  | .nan, _ | _, .nan => nan
  | .infinite _, _ => nan
  | .finite .., .infinite _ => a
  | .finite n m₁ e₁, .finite _ m₂ e₂ =>
    if m₂ = 0 then nan
    else
      let e := min e₁ e₂
      ofDyadic n ((m₁ * twoTo (e₁ - e).toNat) % (m₂ * twoTo (e₂ - e).toNat)) e

/-- The square root, rounded to nearest.  Its fifty-three bits come from a whole root of a number
scaled up by an even power of two; the bit below tells on which side of a tie the rest lies. -/
def sqrt (d : Double) : Double :=
  match d.decode with
  | .nan => nan
  | .infinite neg => if neg then nan else d
  | .finite neg m e =>
    if m = 0 then d
    else if neg then nan
    else
      let shift : Nat := if e % 2 = 0 then 120 else 121
      let n := m * twoTo shift
      let root := natRoot n
      let sticky := if root * root = n then 0 else 1
      ofDyadic false (2 * root + sticky) ((e - shift) / 2 - 1)
where
  /-- The greatest number whose square is at most `n`, found bit by bit. -/
  natRoot (n : Nat) : Nat :=
    (List.range (n.log2 / 2 + 1)).reverse.foldl (fun r i =>
      let t := r + twoTo i
      if t * t ≤ n then t else r) 0

/-! ### Order -/

/-- How two doubles compare; a NaN compares with nothing. -/
def compare? (a b : Double) : Option Ordering :=
  match a.decode, b.decode with
  | .nan, _ | _, .nan => none
  | .infinite n, .infinite k => some (if n = k then .eq else if n then .lt else .gt)
  | .infinite n, _ => some (if n then .lt else .gt)
  | _, .infinite n => some (if n then .gt else .lt)
  | .finite n₁ m₁ e₁, .finite n₂ m₂ e₂ =>
    let e := min e₁ e₂
    let x := unitsOf n₁ m₁ e₁ e
    let y := unitsOf n₂ m₂ e₂ e
    some (if x < y then .lt else if x = y then .eq else .gt)

def lt (a b : Double) : Bool := a.compare? b == some .lt

/-! ### Whole numbers -/

/-- The double with its magnitude replaced by a whole number. -/
def withWhole (d : Double) (f : Nat → Nat → Nat) : Double :=
  match d.decode with
  | .finite neg m e =>
    if 0 ≤ e then d
    else
      let n := f m (twoTo (-e).toNat)
      if n = 0 then zero neg else ofRatio neg n 1
  | _ => d

/-- The whole number next to a double on the side of zero. -/
def trunc (d : Double) : Double := d.withWhole (· / ·)

/-- The greatest whole number that is not above a double. -/
def floor (d : Double) : Double :=
  d.withWhole fun m den => if d.negative then (m + den - 1) / den else m / den

/-- The least whole number that is not below a double. -/
def ceil (d : Double) : Double :=
  d.withWhole fun m den => if d.negative then m / den else (m + den - 1) / den

/-- The nearest whole number, the greater one of two that are equally near. -/
def roundHalfUp (d : Double) : Double :=
  d.withWhole fun m den =>
    if d.negative then (2 * m + den - 1) / (2 * den) else (2 * m + den) / (2 * den)

/-- The whole part as an integer; zero where there is none. -/
def toIntTrunc (d : Double) : Int :=
  match d.decode with
  | .finite neg m e =>
    let n := if 0 ≤ e then m * twoTo e.toNat else m / twoTo (-e).toNat
    if neg then -(n : Int) else n
  | _ => 0

/-- The last bits of the whole part, as a number without sign. -/
def wrap (bits : Nat) (d : Double) : Nat := (d.toIntTrunc % (twoTo bits : Int)).toNat

/-- The last bits of the whole part, as a number with sign. -/
def wrapSigned (bits : Nat) (d : Double) : Int :=
  let n := d.wrap bits
  if n < twoTo (bits - 1) then n else (n : Int) - twoTo bits

end Double

end ScriptHost
