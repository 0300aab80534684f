import ScriptHost.Library.Iteration
import ScriptHost.Number.Exact
import ScriptHost.Number.Exponential

/-!
# Mathematical functions

* `Double.viaFloat`: functions that machines compute;
* `MathFunction.run`: the functions of `Math`.
-/

namespace ScriptHost

namespace Double

/-- A function that the machine computes. -/
def viaFloat (f : Float → Float) (d : Double) : Double := ofFloat (f d.toFloat)

/-- The greater of two numbers; a NaN wins, and the positive zero is the greater one. -/
def greater (a b : Double) : Double :=
  if a.isNaN || b.isNaN then .nan
  else if a.isZero && b.isZero then if a.negative then b else a
  else if a.lt b then b else a

/-- The lesser of two numbers. -/
def lesser (a b : Double) : Double :=
  if a.isNaN || b.isNaN then .nan
  else if a.isZero && b.isZero then if a.negative then a else b
  else if b.lt a then b else a

/-- A power; the powers of one and minus one to an infinite exponent are no numbers. -/
def power (a b : Double) : Double :=
  if !b.isFinite && (a.abs.toInt? = some 1) then .nan else ofFloat (Float.pow a.toFloat b.toFloat)

/-- One, zero or minus one, by the sign. -/
def signum (d : Double) : Double :=
  if d.isNaN || d.isZero then d else .ofInt (if d.negative then -1 else 1)

/-- The length of a vector, from the first part on. -/
def norm : List Double → Double
  | [] => zero false
  | [d] => d.abs
  | d :: rest => rest.foldl hypotenuse d

/-- The number of zeros before the first bit of a word of 32 bits. -/
def leadingZeros (d : Double) : Nat :=
  let n := d.wrap 32
  if n = 0 then 32 else 31 - n.log2

end Double

/-- The numbers of arguments. -/
def numbersOf (args : List Value) : Script (List Double) := args.mapM toNumber

/-- What a function of `Math` does. -/
def MathFunction.run (f : MathFunction) (args : List Value) : Script Value :=
  let unary (g : Double → Double) : Script Value := do
    return .number (g (← toNumber (argument args 0)))
  let machine (g : Float → Float) : Script Value := unary (Double.viaFloat g)
  let binary (g : Double → Double → Double) : Script Value := do
    let a ← toNumber (argument args 0)
    return .number (g a (← toNumber (argument args 1)))
  match f with
  | .min => do
    return .number ((← numbersOf args).foldl Double.lesser (.infinity false))
  | .max => do
    return .number ((← numbersOf args).foldl Double.greater (.infinity true))
  | .abs => unary Double.abs
  | .floor => unary Double.floor
  | .ceil => unary Double.ceil
  | .round => unary Double.roundHalfUp
  | .sqrt => unary Double.sqrt
  | .acos => machine Float.acos
  | .asin => machine Float.asin
  | .atan => machine Float.atan
  | .atan2 => binary fun a b => .ofFloat (Float.atan2 a.toFloat b.toFloat)
  | .cos => machine Float.cos
  | .exp => machine Float.exp
  | .log => machine Float.log
  | .pow => binary Double.power
  | .sin => machine Float.sin
  | .tan => machine Float.tan
  | .trunc => unary Double.trunc
  | .sign => unary Double.signum
  | .cosh => machine Float.cosh
  | .sinh => machine Float.sinh
  | .tanh => machine Float.tanh
  | .acosh => machine Float.acosh
  | .asinh => machine Float.asinh
  | .atanh => machine Float.atanh
  | .expm1 => machine Exponential.expMinusOne
  | .log1p => machine Exponential.logOnePlus
  | .log2 => machine Float.log2
  | .log10 => machine Float.log10
  | .cbrt => unary Double.cubeRoot
  | .hypot => do return .number (.norm (← numbersOf args))
  | .sumPrecise => do
    let found ← iterate (argument args 0) #[] fun found v => do
      match v with
      | .number d => return (true, found.push d)
      | _ => throwType "not a number"
    return .number (.sumOf found.toList)
  | .random => return .number (.ofRatio false 1 2)
  | .fround f => unary fun d => f.toDouble (f.ofDouble d)
  | .imul => binary fun a b => .ofInt (ElementType.signed 32 (a.wrap 32 * b.wrap 32 % twoTo 32))
  | .clz32 => do return .ofNat (← toNumber (argument args 0)).leadingZeros

end ScriptHost
