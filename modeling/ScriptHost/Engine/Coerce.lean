import ScriptHost.Engine.Reading

/-!
# Converting values

* `toPrimitive`: a value that is no object;
* `toText`, `toNumber`, `toBigInt`, `toKey`: the text, number, big integer and key of a value;
* `toInteger`, `toLength`, `relativeIndex`: whole numbers;
* `toObject`: a value as an object;
* `typeName`: the word for the type of a value;
* `addValues`: the sum of two values, which are put in a row if either is text.
-/

namespace ScriptHost

/-! ### Values without properties -/

/-- What a value that is no object is wanted for. -/
inductive Hint
  | neither
  | number
  | text
  deriving DecidableEq

namespace Hint

/-- The word under which an object learns of the purpose. -/
def word : Hint → String
  | neither => "default"
  | number => "number"
  | text => "string"

/-- The methods that are asked for such a value, in this order. -/
def methods : Hint → List Key
  | text => ["toString", "valueOf"]
  | _ => ["valueOf", "toString"]

end Hint

/-- The first value that is no object and that one of the methods gives. -/
def askMethods (v : Value) : List Key → Script Value
  | [] => throwType "toPrimitive"
  | key :: rest => do
    let f ← getProperty v key
    if ← isCallable f then
      match ← call f v [] with
      | .object _ => askMethods v rest
      | w => return w
    else askMethods v rest

/-- The value that an object gives where one is wanted that is no object. -/
def toPrimitive (hint : Hint) (v : Value) : Script Value :=
  match v with
  | .object _ => do
    let f ← getProperty v (.known .toPrimitive)
    if f.isNullish then askMethods v hint.methods
    else
      match ← call f v [.ofString hint.word] with
      | .object _ => throwType "toPrimitive"
      | w => return w
  | v => return v

/-! ### Texts -/

/-- The text of a value that is no object. -/
def primitiveText (v : Value) : Script Text :=
  match v with
  | .undefined => return .unicode "undefined"
  | .null => return .unicode "null"
  | .bool b => return .unicode (if b then "true" else "false")
  | .number d => return .unicode (d.render .script)
  | .string t => return t
  | .bigint n => return .unicode (toString n)
  | .symbol _ => throwType "cannot convert symbol to string"
  | .object _ => return .unicode ""

/-- The text of a value. -/
def toText (v : Value) : Script Text := do primitiveText (← toPrimitive .text v)

/-- The key that a value is. -/
def toKey (v : Value) : Script Key := do
  match ← toPrimitive .text v with
  | .symbol s => return .symbol s
  | w => return .text (← primitiveText w)

/-! ### Numbers -/

/-- The number of a value that is no object. -/
def primitiveNumber (v : Value) : Script Double :=
  match v with
  | .undefined => return .nan
  | .null => return .zero false
  | .bool b => return .ofInt (if b then 1 else 0)
  | .number d => return d
  | .string t => return Numeral.ofText t
  | .bigint _ => throwType "cannot convert BigInt to number"
  | .symbol _ => throwType "cannot convert symbol to number"
  | .object _ => return .nan

/-- The number of a value. -/
def toNumber (v : Value) : Script Double := do primitiveNumber (← toPrimitive .number v)

/-- The number or big integer of a value. -/
def toNumeric (v : Value) : Script Value := do
  match ← toPrimitive .number v with
  | .bigint n => return .bigint n
  | w => return .number (← primitiveNumber w)

/-- The whole number on the side of zero; a NaN counts as zero. -/
def toInteger (v : Value) : Script Double := do
  let d ← toNumber v
  return if d.isNaN then .zero false else d.trunc

/-- A whole number between two bounds. -/
def Double.clampTo (low high : Int) (d : Double) : Int :=
  match d.decode with
  | .nan => max low (min high 0)
  | .infinite neg => if neg then low else high
  | .finite .. => max low (min high d.toIntTrunc)

/-- The greatest length that a list can claim. -/
def maxLength : Nat := twoTo 53 - 1

/-- A value as the length of a list. -/
def toLength (v : Value) : Script Nat := do return ((← toNumber v).clampTo 0 maxLength).toNat

/-- The length that an object claims to have. -/
def lengthOf (v : Value) : Script Nat := do toLength (← getProperty v "length")

/-- A place in a list of the given length: negative numbers count from its end. -/
def placeFrom (length : Nat) (d : Double) : Nat :=
  match d.decode with
  | .nan => 0
  | .infinite neg => if neg then 0 else length
  | .finite .. =>
    let i := d.toIntTrunc
    (max 0 (min (length : Int) (if i < 0 then i + length else i))).toNat

/-- A place in a list; without a value it is `absent`. -/
def relativeIndex (length : Nat) (v : Value) (absent : Nat) : Script Nat := do
  match v with
  | .undefined => return absent
  | v => return placeFrom length (← toNumber v)

/-- The argument at a place, or undefined. -/
def argument (args : List Value) (i : Nat) : Value := args.getD i .undefined

/-! ### Big integers -/

/-- The big integer that a text spells; a blank one spells zero. -/
def bigIntOf? (t : Text) : Option Int :=
  match t.toUnicode with
  | .error _ => none
  | .ok s =>
    let digits (base : Nat) (ds : List Char) : Option Int :=
      if ds.isEmpty then none else (Digits.inBase? base ds).map Int.ofNat
    match Blank.trim s.toList with
    | [] => some 0
    | '0' :: 'x' :: ds | '0' :: 'X' :: ds => digits 16 ds
    | '0' :: 'o' :: ds | '0' :: 'O' :: ds => digits 8 ds
    | '0' :: 'b' :: ds | '0' :: 'B' :: ds => digits 2 ds
    | '+' :: ds => digits 10 ds
    | '-' :: ds => (digits 10 ds).map fun n => -n
    | ds => digits 10 ds

/-- The big integer of a value. -/
def toBigInt (v : Value) : Script Int := do
  match ← toPrimitive .number v with
  | .bigint n => return n
  | .bool b => return if b then 1 else 0
  | .string t =>
    match bigIntOf? t with
    | some n => return n
    | none => throwNew .syntaxError "invalid BigInt literal"
  | _ => throwType "cannot convert to BigInt"

/-! ### Objects -/

/-- The object around a text. -/
def boxedText (t : Text) : Object where
  kind := .boxed (.string t)
  prototype := some Family.text.prototype
  properties := [("length", .data (.ofNat t.length) .fixed)]

/-- A value as an object. -/
def toObject (v : Value) : Script Ref :=
  match v with
  | .object r => return r
  | .undefined | .null => throwType "Cannot convert undefined or null to object"
  | .string t => allocate (boxedText t)
  | v => allocate { kind := .boxed v, prototype := (Family.ofPrimitive? v).map Family.prototype }

/-- The object that a value is. -/
def requireObject (v : Value) (complaint : String) : Script Ref :=
  match v with
  | .object r => return r
  | _ => throwType complaint

/-- The word for the type of a value. -/
def typeName (v : Value) : Script String :=
  match v with
  | .undefined => return "undefined"
  | .null => return "object"
  | .bool _ => return "boolean"
  | .number _ => return "number"
  | .string _ => return "string"
  | .bigint _ => return "bigint"
  | .symbol _ => return "symbol"
  | .object _ => do return if ← isCallable v then "function" else "object"

/-! ### Sums -/

/-- The sum of two values: in a row if either is text, else as numbers. -/
def addValues (a b : Value) : Script Value := do
  let a ← toPrimitive .neither a
  let b ← toPrimitive .neither b
  match a, b with
  | .string _, _ | _, .string _ => do
    let s ← primitiveText a
    let t ← primitiveText b
    return .string (s ++ t)
  | a, b => do
    let x ← toNumeric a
    let y ← toNumeric b
    match x, y with
    | .number m, .number n => return .number (m.add n)
    | .bigint m, .bigint n => return .bigint (m + n)
    | _, _ => throwType "cannot convert to BigInt"

end ScriptHost
