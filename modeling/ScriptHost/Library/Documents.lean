import ScriptHost.Json.Printer
import ScriptHost.Library.Arrays

/-!
# Values as document text

* `quoteText`: a text between quotes; a surrogate that stands alone is escaped;
* `stringify`: the document text of a value, if it has one;
* `parseDocument`: the value that document text stands for.
-/

namespace ScriptHost

/-! ### Quotes -/

/-- The hexadecimal digits of a unit. -/
def unitDigits (u : UInt16) : List Char :=
  let n := u.toNat
  [n / 4096, n / 256 % 16, n / 16 % 16, n % 16].map Nat.digitChar

/-- Units with each surrogate that stands alone spelled as an escape. -/
def spellUnits : List UInt16 → List Char
  | [] => []
  | [u] =>
    if Units.isHigh u || Units.isLow u then '\\' :: 'u' :: unitDigits u
    else (Json.escapeOf? (Char.ofNat u.toNat)).getD [Char.ofNat u.toNat]
  | u :: v :: rest =>
    if Units.isHigh u && Units.isLow v then Units.pair u v :: spellUnits rest
    else if Units.isHigh u || Units.isLow u then
      '\\' :: 'u' :: unitDigits u ++ spellUnits (v :: rest)
    else (Json.escapeOf? (Char.ofNat u.toNat)).getD [Char.ofNat u.toNat] ++ spellUnits (v :: rest)

/-- A text between quotes. -/
def quoteText : Text → String
  | .unicode s => Json.escape s
  | .broken us => String.ofList ('"' :: spellUnits us ++ ['"'])

/-! ### Writing -/

/-- How the text of a value is written. -/
structure DocumentStyle where
  /-- A function that may replace each value. -/
  replacer : Value := .undefined
  /-- The only keys that are written, if there are such. -/
  keys : Option (List Key) := none
  /-- What stands before each level of nesting; with it, each item has a line. -/
  gap : Text := .unicode ""

/-- The text in front of an item on a line of its own. -/
def DocumentStyle.line (style : DocumentStyle) (depth : Nat) : Text :=
  if style.gap.isEmpty then .unicode "" else .unicode "\n" ++ style.gap.replicate depth

/-- A value as its own method and the replacer leave it; undefined if it has no text. -/
def prepareForText (style : DocumentStyle) (holder : Value) (key : Key) (v : Value) :
    Script Value := do
  let v ← match v with
    | .object _ | .bigint _ => do
      let f ← getProperty v "toJSON"
      if ← isCallable f then call f v [key.toValue] else pure v
    | v => pure v
  let v ← if style.replacer = .undefined then pure v
    else call style.replacer holder [key.toValue, v]
  match v with
  | .symbol _ => return .undefined
  | v => if ← isCallable v then return .undefined else return v

/-- The value that an object wraps, where it counts for the object. -/
def unwrapForText (v : Value) : Script Value := do
  match v with
  | .object r =>
    match (← readObject r).kind with
    | .boxed (.number _) => return .number (← toNumber v)
    | .boxed (.string _) => return .string (← toText v)
    | .boxed (.symbol _) => return v
    | .boxed w => return w
    | _ => return v
  | v => return v

/-- Texts between brackets. -/
def bracketed (style : DocumentStyle) (depth : Nat) (opening closing : String)
    (parts : Array Text) : Text :=
  if parts.isEmpty then .unicode (opening ++ closing)
  else
    let inner := style.line (depth + 1)
    let body := parts.foldl (fun (first, acc) t =>
      (false, acc ++ (if first then inner else .unicode "," ++ inner) ++ t))
      (true, Text.unicode opening)
    body.2 ++ style.line depth ++ .unicode closing

/-- The text of a value inside the objects `outer`. -/
def documentText (style : DocumentStyle) : Nat → List Ref → Value → Script Text
  | 0, _, _ => stackExceeded
  | levels + 1, outer, v => do
    match ← unwrapForText v with
    | .undefined | .null | .symbol _ => return .unicode "null"
    | .bool b => return .unicode (if b then "true" else "false")
    | .number d => return .unicode (if d.isFinite then d.render .script else "null")
    | .string t => return .unicode (quoteText t)
    | .bigint _ => throwType "BigInt are forbidden in JSON.stringify"
    | .object r =>
      let v : Value := .object r
      if outer.contains r then throwType "circular reference"
      else if ← isArray v then
        let count ← lengthOf v
        let parts ← foldItems count #[] fun parts i => do
          let item ← prepareForText style v (.item i) (← getProperty v (.item i))
          return (true, parts.push (← documentText style levels (r :: outer) item))
        return bracketed style outer.length "[" "]" parts
      else
        let keys ← match style.keys with
          | some keys => pure keys
          | none => shownKeysOf r
        let parts ← keys.foldlM (fun (parts : Array Text) key => do
          match ← prepareForText style v key (← getProperty v key) with
          | .undefined => return parts
          | item =>
            let name := match key with
              | .text t => quoteText t
              | .symbol _ => ""
            let colon := if style.gap.isEmpty then ":" else ": "
            let t ← documentText style levels (r :: outer) item
            return parts.push (.unicode (name ++ colon) ++ t)) #[]
        return bracketed style outer.length "\x7b" "\x7d" parts

/-- How deep the text of a value may nest. -/
def maxTextLevels : Nat := 3276

/-- The keys that a list allows. -/
def allowedKeys (list : Value) : Script (List Key) := do
  let items ← itemsFrom list (← lengthOf list) 0
  items.foldlM (fun keys item => do
    let named ← match item with
      | .string _ | .number _ => pure true
      | .object r => do
        pure (match (← readObject r).kind with
          | .boxed (.string _) | .boxed (.number _) => true
          | _ => false)
      | _ => pure false
    if named then
      let key := Key.text (← toText item)
      return if keys.contains key then keys else keys ++ [key]
    else return keys) []

/-- The gap that an argument asks for. -/
def gapOf (space : Value) : Script Text := do
  match ← unwrapForText space with
  | .number d => return .unicode (String.ofList (List.replicate (d.clampTo 0 10).toNat ' '))
  | .string t => return .ofUnits (t.units.take 10)
  | _ => return .unicode ""

/-- The document text of a value, or undefined if it has none. -/
def stringify (v replacer space : Value) : Script Value := do
  let style : DocumentStyle ← if ← isCallable replacer then pure { replacer }
    else if ← isArray replacer then do pure { keys := some (← allowedKeys replacer) }
    else pure {}
  let style := { style with gap := ← gapOf space }
  let holder ← newRecord [("", v)]
  match ← prepareForText style holder "" v with
  | .undefined => return .undefined
  | v => return .string (← documentText style maxTextLevels [] v)

/-! ### Reading -/

namespace DocumentReader

/-- The characters that are left. -/
abbrev Rest := List UInt16

/-- Whether a unit is a given character. -/
def isUnit (u : UInt16) (c : Char) : Bool := u.toNat = c.toNat

/-- Whether a unit is a decimal digit. -/
def isDigit (u : UInt16) : Bool := 0x30 ≤ u.toNat && u.toNat ≤ 0x39

/-- Whether a list of units begins with a digit. -/
def startsWithDigit (rest : Rest) : Bool := rest.head?.any isDigit

/-- Letters, digits, underscores and dollar signs, which belong to one word. -/
def isWordUnit (u : UInt16) : Bool :=
  let c := Char.ofNat u.toNat
  u.toNat < 128 && (c.isAlphanum || c = '_' || c = '$')

/-- Whether a unit begins a word. -/
def startsWord (u : UInt16) : Bool := isWordUnit u && !isDigit u

/-- The whole text that is read, by which complaints tell a place. -/
structure Source where
  units : List UInt16

namespace Source

/-- The complaint about the place where `rest` begins, which it tells in bytes. -/
def complain {α : Type} (s : Source) (rest : Rest) (message : String) : Script α :=
  let before := s.units.take (s.units.length - rest.length)
  let bytes (us : List UInt16) : Nat :=
    (String.ofList (us.map fun u => Char.ofNat u.toNat)).utf8ByteSize
  let line := before.reverse.takeWhile fun u => !isUnit u '\n' && !isUnit u '\r'
  let ends := before.filter fun u => isUnit u '\n' || isUnit u '\r'
  throwNew .syntaxError (message ++ " in JSON at position " ++ toString (bytes before) ++ " (line "
    ++ toString (ends.length + 1) ++ " column " ++ toString (bytes line + 1) ++ ")")

end Source

/-- The complaint about text that ends too early. -/
def endsEarly {α : Type} : Script α := throwNew .syntaxError "Unexpected end of JSON input"

/-- The complaint about a character or word that begins no value. -/
def refuse {α : Type} (rest : Rest) : Script α :=
  match rest with
  | [] => endsEarly
  | u :: _ =>
    let shown := if startsWord u then rest.takeWhile isWordUnit else [u]
    throwNew .syntaxError
      ("unexpected token: '" ++ String.ofList (shown.map fun u => Char.ofNat u.toNat) ++ "'")

/-- What follows blanks. -/
def skip : Rest → Rest
  | [] => []
  | u :: rest =>
    if isUnit u ' ' || isUnit u '\t' || isUnit u '\n' || isUnit u '\r' then skip rest
    else u :: rest

/-- The unit that four hexadecimal digits spell. -/
def hexUnit? (us : Rest) : Option UInt16 :=
  let cs := us.map fun u => Char.ofNat u.toNat
  if cs.length = 4 then (Digits.inBase? 16 cs).map UInt16.ofNat else none

/-- The unit that a letter after a backslash stands for. -/
def escape? (u : UInt16) : Option UInt16 :=
  [('"', 0x22), ('\\', 0x5C), ('/', 0x2F), ('b', 0x8), ('f', 0xC), ('n', 0xA), ('r', 0xD),
    ('t', 0x9)].lookup (Char.ofNat u.toNat)

/-- The rest of a text after its opening quote. -/
def quoted (s : Source) : Nat → Rest → List UInt16 → Script (Text × Rest)
  | 0, _, _ => endsEarly
  | fuel + 1, rest, found =>
    match rest with
    | [] => endsEarly
    | u :: rest =>
      if isUnit u '"' then return (.ofUnits found.reverse, rest)
      else if u.toNat < 0x20 then s.complain (u :: rest) "Bad control character in string literal"
      else if isUnit u '\\' then
        match rest with
        | [] => endsEarly
        | e :: rest =>
          if isUnit e 'u' then
            match hexUnit? (rest.take 4) with
            | some v => quoted s fuel (rest.drop 4) (v :: found)
            | none =>
              let good := (rest.take 4).takeWhile fun u => Digits.isDigit 16 (Char.ofNat u.toNat)
              s.complain (rest.drop good.length) "Bad Unicode escape"
          else
            match escape? e with
            | some v => quoted s fuel rest (v :: found)
            | none => s.complain (e :: rest) "Bad escaped character"
      else quoted s fuel rest (u :: found)

/-- What follows digits. -/
def afterDigits (rest : Rest) : Rest := rest.dropWhile isDigit

/-- What follows a number, or the complaint about it. -/
def afterNumber (s : Source) (rest : Rest) : Script Rest := do
  let rest ← match rest with
    | u :: after =>
      if isUnit u '-' then
        if startsWithDigit after then pure after else s.complain rest "No number after minus sign"
      else pure rest
    | [] => pure rest
  match rest with
  | u :: after => if isUnit u '0' && startsWithDigit after then s.complain rest "Unexpected number"
  | [] => pure ()
  let rest ← match afterDigits rest with
    | u :: after =>
      if isUnit u '.' then
        if startsWithDigit after then pure (afterDigits after)
        else s.complain after "Unterminated fractional number"
      else pure (u :: after)
    | [] => pure []
  match rest with
  | u :: after =>
    if isUnit u 'e' || isUnit u 'E' then
      let digits := match after with
        | v :: more => if isUnit v '+' || isUnit v '-' then more else after
        | [] => after
      if startsWithDigit digits then return afterDigits digits
      else s.complain digits "Exponent part is missing a number"
    else return rest
  | [] => return rest

/-- A number. -/
def number (s : Source) (rest : Rest) : Script (Value × Rest) := do
  let after ← afterNumber s rest
  let spelled := rest.take (rest.length - after.length)
  return (.number (Numeral.ofChars (spelled.map fun u => Char.ofNat u.toNat)), after)

/-- A word. -/
def word (rest : Rest) : Script (Value × Rest) :=
  let name := rest.takeWhile isWordUnit
  let after := rest.drop name.length
  if name = Units.ofString "true" then return (.bool true, after)
  else if name = Units.ofString "false" then return (.bool false, after)
  else if name = Units.ofString "null" then return (.null, after)
  else refuse rest

mutual

/-- A value. -/
def value (s : Source) : Nat → Rest → Script (Value × Rest)
  | 0, _ => stackExceeded
  | fuel + 1, rest =>
    match skip rest with
    | [] => endsEarly
    | u :: rest =>
      if isUnit u '\x7b' then do
        let r ← newObject
        match skip rest with
        | v :: after =>
          if isUnit v '\x7d' then return (.object r, after)
          else do
            let rest ← fields s fuel r "Expected property name or '\x7d'" (v :: after)
            return (.object r, rest)
        | [] => s.complain [] "Expected property name or '\x7d'"
      else if isUnit u '[' then
        match skip rest with
        | [] => endsEarly
        | v :: after =>
          if isUnit v ']' then do return (← newList [], after)
          else do
            let (vs, rest) ← items s fuel (v :: after) #[]
            return (← arrayOf vs, rest)
      else if isUnit u '"' then do
        let (t, rest) ← quoted s (rest.length + 1) rest []
        return (.string t, rest)
      else if startsWord u then word (u :: rest)
      else if isUnit u '-' || isDigit u then number s (u :: rest)
      else refuse (u :: rest)

/-- The items of an array, up to its end. -/
def items (s : Source) : Nat → Rest → Array Value → Script (Array Value × Rest)
  | 0, _, _ => stackExceeded
  | fuel + 1, rest, found => do
    let (v, rest) ← value s fuel rest
    let found := found.push v
    let rest := skip rest
    match rest with
    | u :: after =>
      if isUnit u ',' then items s fuel after found
      else if isUnit u ']' then return (found, after)
      else s.complain rest "Expected ',' or ']' after array element"
    | [] => s.complain rest "Expected ',' or ']' after array element"

/-- The fields of an object, up to its end; `expected` is the complaint if there is no name. -/
def fields (s : Source) : Nat → Ref → String → Rest → Script Rest
  | 0, _, _, _ => stackExceeded
  | fuel + 1, r, expected, rest => do
    let rest := skip rest
    let (t, rest) ← match rest with
      | u :: after =>
        if isUnit u '"' then quoted s (after.length + 1) after [] else s.complain rest expected
      | [] => s.complain rest expected
    let rest := skip rest
    let rest ← match rest with
      | u :: after =>
        if isUnit u ':' then pure after else s.complain rest "Expected ':' after property name"
      | [] => s.complain rest "Expected ':' after property name"
    let (v, rest) ← value s fuel rest
    createProperty r (.text t) v
    let rest := skip rest
    match rest with
    | u :: after =>
      if isUnit u ',' then fields s fuel r "Expected double-quoted property name" after
      else if isUnit u '\x7d' then return after
      else s.complain rest "Expected ',' or '\x7d' after property value"
    | [] => s.complain rest "Expected ',' or '\x7d' after property value"

end

end DocumentReader

/-- A value as a function leaves it that is asked about each part, the inner ones first. -/
def revise (reviver : Value) : Nat → Value → Key → Script Value
  | 0, _, _ => stackExceeded
  | fuel + 1, holder, key => do
    let v ← getProperty holder key
    match v with
    | .object r =>
      let keys ← if ← isArray v then do pure (itemKeys (← lengthOf v)) else shownKeysOf r
      for k in keys do
        match ← revise reviver fuel v k with
        | .undefined =>
          let _ ← deleteOn r k
        | w =>
          let _ ← defineOn r k (.plain w)
    | _ => pure ()
    call reviver holder [key.toValue, v]

/-- The value that document text stands for. -/
def parseDocument (v reviver : Value) : Script Value := do
  let us := (← toText v).units
  let (value, rest) ← DocumentReader.value ⟨us⟩ (2 * us.length + 2) us
  match DocumentReader.skip rest with
  | [] =>
    if ← isCallable reviver then
      let holder ← newRecord [("", value)]
      revise reviver maxTextLevels holder ""
    else return value
  | _ => throwNew .syntaxError "unexpected data at the end"

end ScriptHost
