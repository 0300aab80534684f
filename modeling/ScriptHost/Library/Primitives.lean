import ScriptHost.Engine.Writing
import ScriptHost.Number.Layout

/-!
# What numbers, truth values, big integers and symbols can do

* `wrapped`: the value that a value is or wraps;
* `PrimitiveMethod.run`: the functions and methods.
-/

namespace ScriptHost

/-! ### Receivers -/

/-- The value that a value is or wraps, if it is of a kind. -/
def wrapped {α : Type} (this : Value) (kind : Value → Option α) (complaint : String) :
    Script α := do
  let v ← match this with
    | .object r => do
      match (← readObject r).kind with
      | .boxed v => pure v
      | _ => pure .undefined
    | v => pure v
  match kind v with
  | some a => return a
  | none => throwType complaint

def Value.number? : Value → Option Double
  | .number d => some d
  | _ => none

def Value.bool? : Value → Option Bool
  | .bool b => some b
  | _ => none

def Value.bigint? : Value → Option Int
  | .bigint n => some n
  | _ => none

def Value.symbol? : Value → Option Symbol
  | .symbol s => some s
  | _ => none

def wrappedNumber (this : Value) : Script Double := wrapped this Value.number? "not a number"
def wrappedBool (this : Value) : Script Bool := wrapped this Value.bool? "not a boolean"
def wrappedBigInt (this : Value) : Script Int := wrapped this Value.bigint? "not a BigInt"
def wrappedSymbol (this : Value) : Script Symbol := wrapped this Value.symbol? "not a symbol"

/-! ### Arguments -/

/-- The base for the text of a number. -/
def toBase (v : Value) : Script Nat := do
  match v with
  | .undefined => return 10
  | v =>
    let base := (← toInteger v).clampTo 0 100
    if 2 ≤ base && base ≤ 36 then return base.toNat
    else throwNew .rangeError "radix must be between 2 and 36"

/-- A number of digits for the method of a name, within bounds. -/
def digitCount (d : Double) (name : String) (low : Nat) : Script Nat :=
  let n := d.clampTo (-1) 1000
  if low ≤ n && n ≤ 100 then return n.toNat
  else
    throwNew .rangeError
      (name ++ "() argument must be between " ++ toString low ++ " and 100")

/-- A number of bits. -/
def bitCount (v : Value) : Script Nat := do
  let n := (← toInteger v).clampTo (-1) (maxLength + 1 : Nat)
  if 0 ≤ n && n ≤ maxLength then return n.toNat else throwNew .rangeError "invalid array index"

/-! ### Texts -/

/-- The text of a number in a base. -/
def numberText (d : Double) (base : Nat) : String :=
  if base = 10 || !d.isFinite then d.render .script else d.inBase base

/-- The text of a big integer in a base. -/
def bigIntText (n : Int) (base : Nat) : String :=
  (if n < 0 then "-" else "") ++ String.ofList (Digits.spell base n.natAbs)

/-- The text of a symbol. -/
def symbolText (s : Symbol) : Text :=
  .unicode "Symbol(" ++ s.description?.getD (.unicode "") ++ .unicode ")"

/-- Whether a value is a number that a condition holds of. -/
def isNumberThat (v : Value) (condition : Double → Bool) : Value := .bool (v.number?.any condition)

/-- What such a function or method does. -/
def PrimitiveMethod.run (f : PrimitiveMethod) (this : Value) (args : List Value) : Script Value :=
  let first := argument args 0
  let second := argument args 1
  match f with
  | .isNaN => return isNumberThat first Double.isNaN
  | .isFinite => return isNumberThat first Double.isFinite
  | .isInteger => return isNumberThat first fun d => d.toInt?.isSome
  | .isSafeInteger => return isNumberThat first fun d => d.safeInt?.isSome
  | .toExponential => do
    let d ← wrappedNumber this
    let count ← toInteger first
    if !d.isFinite then return .ofString (d.render .script)
    else if first = .undefined then return .ofString (d.exponential none)
    else return .ofString (d.exponential (some (← digitCount count "toExponential" 0)))
  | .toFixed => do
    let d ← wrappedNumber this
    let count ← digitCount (← toInteger first) "toFixed" 0
    if !d.isFinite || (Double.ofInt (tenTo 21)).compare? d.abs != some .gt then
      return .ofString (d.render .script)
    else return .ofString (d.fixed count)
  | .toPrecision => do
    let d ← wrappedNumber this
    if first = .undefined then return .ofString (d.render .script)
    else
      let count ← toInteger first
      if !d.isFinite then return .ofString (d.render .script)
      else return .ofString (d.precise (← digitCount count "toPrecision" 1))
  | .numberToText => do
    let d ← wrappedNumber this
    return .ofString (numberText d (← toBase first))
  | .numberToLocaleText => do return .ofString ((← wrappedNumber this).render .script)
  | .numberValue => do return .number (← wrappedNumber this)
  | .boolToText => do return .ofString (if ← wrappedBool this then "true" else "false")
  | .boolValue => do return .bool (← wrappedBool this)
  | .bigintToText => do
    let n ← wrappedBigInt this
    return .ofString (bigIntText n (← toBase first))
  | .bigintValue => do return .bigint (← wrappedBigInt this)
  | .asUnsigned => do
    let bits ← bitCount first
    return .bigint ((← toBigInt second) % (twoTo bits : Int))
  | .asSigned => do
    let bits ← bitCount first
    let n := (← toBigInt second) % (twoTo bits : Int)
    return .bigint (if bits > 0 && n ≥ twoTo (bits - 1) then n - (twoTo bits : Int) else n)
  | .symbolFor => do return .symbol (.registered (← toText first))
  | .symbolKey =>
    match first with
    | .symbol (.registered key) => return .string key
    | .symbol _ => return .undefined
    | _ => throwType "not a symbol"
  | .symbolToText => do return .string (symbolText (← wrappedSymbol this))
  | .symbolValue => do return .symbol (← wrappedSymbol this)
  | .symbolDescription => do return .ofText? (← wrappedSymbol this).description?

end ScriptHost
