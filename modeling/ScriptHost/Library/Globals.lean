import ScriptHost.Library.Documents
import ScriptHost.Library.Errors
import ScriptHost.Library.Texts

/-!
# Functions under global names

* `Numeral.prefixIn`, `Numeral.decimalPrefix`: the number at the start of a text;
* `encodeText`, `decodeText`: texts as parts of addresses;
* `makeProxy`, `iteratorFrom`, `watch`: what some of the functions make and keep;
* `GlobalFunction.run`: the functions.
-/

namespace ScriptHost

/-! ### Numbers at the start of texts -/

namespace Numeral

/-- A sign, and what follows it. -/
def takeSign : List Char → Bool × List Char
  | '-' :: cs => (true, cs)
  | '+' :: cs => (false, cs)
  | cs => (false, cs)

/-- The characters after the blanks at the start of a text; a surrogate that stands alone ends
them. -/
def startOf (t : Text) : List Char :=
  let cs := match t with
    | .unicode s => s.toList
    | .broken us =>
      (us.takeWhile fun u => !Units.isHigh u && !Units.isLow u).map fun (u : UInt16) =>
        Char.ofNat u.toNat
  cs.dropWhile Blank.isBlank

/-- The whole number at the start of a text, in a base; zero asks for the base that fits. -/
def prefixIn (t : Text) (base : Int) : Double :=
  if base != 0 && (base < 2 || base > 36) then .nan
  else
    let (neg, cs) := takeSign (startOf t)
    let hexadecimal := (base = 0 || base = 16) && match cs with
      | '0' :: 'x' :: _ | '0' :: 'X' :: _ => true
      | _ => false
    let b := if hexadecimal then 16 else if base = 0 then 10 else base.toNat
    let ds := (if hexadecimal then cs.drop 2 else cs).takeWhile (Digits.isDigit b)
    if ds.isEmpty then .nan
    else
      let d := ofDigits b ds
      if neg then d.neg else d

/-- The exponent at the start of a text, if there is a whole one. -/
def exponentPrefix (cs : List Char) : Int :=
  match cs with
  | c :: rest =>
    if c = 'e' || c = 'E' then
      let (neg, ds) := takeSign rest
      Digits.signed neg (ds.takeWhile Char.isDigit)
    else 0
  | [] => 0

/-- The decimal number at the start of a text. -/
def decimalPrefix (t : Text) : Double :=
  let (neg, cs) := takeSign (startOf t)
  if "Infinity".toList.isPrefixOf cs then .infinity neg
  else
    let whole := cs.takeWhile Char.isDigit
    let (fraction, rest) := match cs.dropWhile Char.isDigit with
      | '.' :: rest => (rest.takeWhile Char.isDigit, rest.dropWhile Char.isDigit)
      | rest => ([], rest)
    if whole.isEmpty && fraction.isEmpty then .nan
    else .ofDecimal neg (Digits.decimal (whole ++ fraction)) (exponentPrefix rest - fraction.length)

end Numeral

/-! ### Addresses -/

/-- The characters that stand for themselves in a part of an address. -/
def isPlainInPart (c : Char) : Bool := c.isAlphanum || "-_.!~*'()".toList.contains c

/-- The characters that divide an address. -/
def isDivider (c : Char) : Bool := ";/?:@&=+$,#".toList.contains c

/-- Two hexadecimal digits after a percent sign. -/
def percent (n : Nat) : List Char :=
  '%' :: [Nat.digitChar (n / 16 % 16), Nat.digitChar (n % 16)].map Char.toUpper

/-- A text as an address, or as a part of one. -/
def encodeText (t : Text) (component : Bool) : Script Text :=
  match t with
  | .unicode s =>
    return .unicode (String.ofList (s.toList.flatMap fun c =>
      if isPlainInPart c || (!component && isDivider c) then [c]
      else (String.singleton c).toUTF8.toList.flatMap fun b => percent b.toNat))
  | .broken _ => throwNew .uriError "invalid character"

/-- Bytes written after percent signs, as many as there are in a row. -/
def percentBytes : Nat → List Char → Option (List UInt8 × List Char)
  | 0, cs => some ([], cs)
  | fuel + 1, '%' :: a :: b :: rest => do
    let n ← Digits.inBase? 16 [a, b]
    let (bytes, rest) ← percentBytes fuel rest
    return (UInt8.ofNat n :: bytes, rest)
  | _, '%' :: _ => none
  | _, cs => some ([], cs)

/-- Characters of an address as the text that they stand for. -/
def decodeChars (component : Bool) : Nat → List Char → Option (List Char)
  | 0, cs => some cs
  | _, [] => some []
  | fuel + 1, '%' :: cs => do
    let (bytes, rest) ← percentBytes fuel ('%' :: cs)
    let s ← String.fromUTF8? ⟨bytes.toArray⟩
    let rest ← decodeChars component fuel rest
    return s.toList.flatMap (fun c =>
      if !component && isDivider c then percent c.toNat else [c]) ++ rest
  | fuel + 1, c :: cs => do return c :: (← decodeChars component fuel cs)

/-- The text that an address stands for. -/
def decodeText (t : Text) (component : Bool) : Script Text :=
  match t with
  | .broken _ => return t
  | .unicode s =>
    match decodeChars component (s.length + 1) s.toList with
    | some cs => return .unicode (String.ofList cs)
    | none => throwNew .uriError "malformed URI sequence"

/-! ### Escapes -/

/-- The characters that need no escape. -/
def isUnescaped (c : Char) : Bool := c.isAlphanum || "@*_+-./".toList.contains c

/-- Units with escapes for those that are not plain. -/
def escapeUnits (us : List UInt16) : List Char :=
  us.flatMap fun u =>
    let n := u.toNat
    if n < 0x80 && isUnescaped (Char.ofNat n) then [Char.ofNat n]
    else if n < 0x100 then percent n
    else '%' :: 'u' :: (unitDigits u).map Char.toUpper

/-- The units that a text with escapes stands for. -/
def unescapeUnits : Nat → List UInt16 → List UInt16
  | 0, us => us
  | _, [] => []
  | fuel + 1, u :: rest =>
    let hex (us : List UInt16) : Option Nat :=
      Digits.inBase? 16 (us.map fun u => Char.ofNat u.toNat)
    if u.toNat != 0x25 then u :: unescapeUnits fuel rest
    else
      let four := (rest.drop 1).take 4
      let two := rest.take 2
      match rest.head?.map UInt16.toNat, hex four, hex two with
      | some 0x75, some n, _ =>
        if four.length = 4 then UInt16.ofNat n :: unescapeUnits fuel (rest.drop 5)
        else u :: unescapeUnits fuel rest
      | _, _, some n =>
        if two.length = 2 then UInt16.ofNat n :: unescapeUnits fuel (rest.drop 2)
        else u :: unescapeUnits fuel rest
      | _, _, none => u :: unescapeUnits fuel rest

/-! ### Proxies -/

/-- The target and the handler of a new proxy. -/
def proxyParts (args : List Value) : Script (Ref × Ref) := do
  let target ← requireObject (argument args 0) "not an object"
  let handler ← requireObject (argument args 1) "not an object"
  return (target, handler)

/-- A new proxy. -/
def makeProxy (args : List Value) : Script Ref := do
  let (target, handler) ← proxyParts args
  allocate (proxyObject target handler)

/-- A new proxy, and the function that takes it out of use. -/
def makeRevocable (args : List Value) : Script (Ref × Ref) := do
  let (target, handler) ← proxyParts args
  let r ← Computation.look .size
  Computation.change (.allocateRevocable target handler)
  return (r, r + 1)

/-! ### Iterators -/

/-- What gives the values of an object, with the methods of all that give values. -/
def iteratorFrom (v : Value) : Script Value := do
  match v with
  | .string _ => call (← getNamed v (.known .iterator)) v []
  | .object r =>
    if ← isAbove Family.iterator.prototype (← chainLimit) r then return v
    else
      match ← getNamed v (.known .iterator) with
      | .undefined | .null => newOf .wrapped (.wrapped v (← getProperty v "next"))
      | f => do return .object (← requireObject (← call f v []) "not an object")
  | _ => throwType "Iterator.from called on non-object"

/-! ### Objects that may go away -/

/-- Whether a value can be watched: objects, and symbols that not all scripts share. -/
def isWatchable : Value → Bool
  | .object _ => true
  | .symbol (.registered _) => false
  | .symbol _ => true
  | _ => false

/-- The tokens by which an object watches over others. -/
def watcherTokens (this : Value) : Script (Ref × List Value) := do
  match this with
  | .object r =>
    match (← readObject r).kind with
    | .watcher tokens => return (r, tokens)
    | _ => throwType "FinalizationRegistry object expected"
  | _ => throwType "FinalizationRegistry object expected"

/-- Watches over an object, by a token if there is one. -/
def watch (this target held token : Value) : Script Value := do
  let (r, tokens) ← watcherTokens this
  if !isWatchable target then throwType "invalid target"
  else if target.same held then throwType "held value cannot be the target"
  else if token != .undefined && !isWatchable token then throwType "invalid unregister token"
  else
    if token != .undefined then
      become r (.watcher (token :: tokens))
    return .undefined

/-- Ends the watch by a token, and tells whether there was one. -/
def unwatch (this token : Value) : Script Value := do
  let (r, tokens) ← watcherTokens this
  if !isWatchable token then throwType "invalid unregister token"
  else
    become r (.watcher (tokens.filter (· != token)))
    return .bool (tokens.contains token)

/-! ### Functions -/

/-- What a function under a global name does. -/
def GlobalFunction.run (f : GlobalFunction) (this : Value) (args : List Value) : Script Value :=
  let first := argument args 0
  match f with
  | .parseInt => do
    let t ← toText first
    let base ← toNumber (argument args 1)
    return .number (Numeral.prefixIn t (base.wrapSigned 32))
  | .parseFloat => do return .number (Numeral.decimalPrefix (← toText first))
  | .isNaN => do return .bool (← toNumber first).isNaN
  | .isFinite => do return .bool (← toNumber first).isFinite
  | .queueMicrotask => do
    requireFunction first
    return .undefined
  | .decode component => do return .string (← decodeText (← toText first) component)
  | .encode component => do return .string (← encodeText (← toText first) component)
  | .escape => do
    return .ofString (String.ofList (escapeUnits (← toText first).units))
  | .unescape => do
    let us := (← toText first).units
    return .string (.ofUnits (unescapeUnits (us.length + 1) us))
  | .eval =>
    match first with
    | .string _ => return .undefined
    | v => return v
  | .jsonParse => parseDocument first (argument args 1)
  | .jsonStringify => stringify first (argument args 1) (argument args 2)
  | .errorToText => errorText this
  | .isError =>
    match first with
    | .object r => do return .bool (← readObject r).isError
    | _ => return .bool false
  | .captureStack => do
    let r ← requireObject first "not an object"
    demand (defineOn r "stack" (.ofProperty (.hidden (.ofString ""))))
    return .undefined
  | .weakTarget => do
    match this with
    | .object r =>
      match (← readObject r).kind with
      | .weakRef target => return target
      | _ => throwType "WeakRef object expected"
    | _ => throwType "WeakRef object expected"
  | .register => watch this first (argument args 1) (argument args 2)
  | .unregister => unwatch this first
  | .iteratorFrom => ScriptHost.iteratorFrom first
  | .proxyRevocable => do
    let (proxy, revoke) ← makeRevocable args
    newRecord [("proxy", .object proxy), ("revoke", .object revoke)]
  | .performanceNow => return .ofNat 0

/-- Takes the proxy of a function out of use. -/
def revokeProxy (self : Ref) : Script Value := do
  Computation.change (.revoke self)
  return .undefined

end ScriptHost
