import ScriptHost.Library.Patterns
import ScriptHost.Text.Search
import ScriptHost.Text.Case
import ScriptHost.Text.Normal

/-!
# What texts can do

* `substitute`: the text that takes the place of another;
* `TextMethod.run`: the functions of `String` and the methods of texts.
-/

namespace ScriptHost

/-! ### Units -/

namespace Units

/-- Whether a unit is a blank. -/
def isBlank (u : UInt16) : Bool := !isHigh u && !isLow u && Blank.isBlank (Char.ofNat u.toNat)

end Units

/-- The normal form that a text names. -/
def formOf? : Text → Option NormalForm
  | .unicode s => NormalForm.named? s
  | .broken _ => none

/-- The code points of a text in a normal form. -/
def normalPoints (f : NormalForm) (t : Text) : List Nat := f.apply (Units.toPoints t.units)

/-! ### Receivers -/

/-- The text of the value that a method works on. -/
def receiverText (this : Value) : Script Text := do
  if this.isNullish then throwType "null or undefined are forbidden" else ScriptHost.toText this

/-- The text that a value is or wraps. -/
def wrappedText (this : Value) : Script Text := do
  match this with
  | .string t => return t
  | .object r =>
    match (← readObject r).kind with
    | .boxed (.string t) => return t
    | _ => throwType "not a string"
  | _ => throwType "not a string"

/-- A place in a text, between its ends. -/
def boundedIndex (v : Value) (length : Nat) : Script Nat := do
  return ((← toInteger v).clampTo 0 length).toNat

/-- The text that a method looks for, which must not be a pattern. -/
def plainText (v : Value) : Script Text := do
  if ← isPattern v then throwType "regexp not supported" else ScriptHost.toText v

/-! ### Patterns -/

/-- Complains about a pattern that is not looked for everywhere. -/
def requireEverywhere (pattern : Value) : Script Unit := do
  if ← isPattern pattern then
    let flags ← getProperty pattern "flags"
    if flags.isNullish then throwType "cannot convert to object"
    if !(Text.units (← ScriptHost.toText flags)).contains 0x67 then
      throwType "regexp must have the 'g' flag"

/-- What an object does with a text and other values that looks for something by itself, if it does;
`everywhere` demands that a pattern be looked for everywhere. -/
def delegate? (this looker : Value) (w : WellKnown) (everywhere : Bool) (args : List Value) :
    Script (Option Value) := do
  if this.isNullish then throwType "cannot convert to object"
  if looker.isNullish then return none
  if everywhere && w = .replacing then requireEverywhere looker
  let f ← getProperty looker (.known w)
  if everywhere && w != .replacing then requireEverywhere looker
  if f.isNullish then return none else return some (← call f looker (this :: args))

/-- What a value, or the pattern that it spells, finds in a text. -/
def findInText (this looker : Value) (w : WellKnown) (everywhere : Bool) : Script Value := do
  match ← delegate? this looker w everywhere [] with
  | some v => return v
  | none => do
    let t ← ScriptHost.toText this
    let rx ← newPattern (looker :: if everywhere then [.ofString "g"] else [])
    call (← getProperty rx (.known w)) rx [.string t]

/-- Replaces a text in another, at its first place or everywhere. -/
def replaceText (this part new : Value) (everywhere : Bool) : Script Value := do
  match ← delegate? this part .replacing everywhere [new] with
  | some v => return v
  | none => do
    let units := (← ScriptHost.toText this).units
    let part := (← ScriptHost.toText part).units
    let new ← settled new
    let places := Units.allPlaces part units (units.length + 1) 0
    let whole := units.toArray
    let (done, start) ← (if everywhere then places else places.take 1).foldlM
      (fun (done, start) i => do
        let us ← (Finding.mk whole part i [] .undefined).replacement new
        return (done ++ whole.extract start i ++ us, i + part.length)) (#[], 0)
    return .string (.ofUnits (done ++ whole.extract start whole.size).toList)

/-! ### Parts -/

/-- The units that bring a text up to a length. -/
def padding (this length filler : Value) : Script (Text × List UInt16) := do
  let t ← receiverText this
  let n ← toLength length
  if n ≤ t.length then return (t, [])
  else
    let filler ← match filler with
      | .undefined => pure [(0x20 : UInt16)]
      | v => do pure (← ScriptHost.toText v).units
    if filler.isEmpty then return (t, [])
    else if n ≥ twoTo 30 then throwNew .rangeError "invalid string length"
    else
      let missing := n - t.length
      return (t, ((List.replicate (missing / filler.length + 1) filler).flatten).take missing)

/-- The parts of a text between separators, so many at most. -/
def splitText (this separator limit : Value) : Script Value := do
  match ← delegate? this separator .splitting false [limit] with
  | some v => return v
  | none => do
    let t ← ScriptHost.toText this
    let room ← partLimit limit
    let us := t.units
    let parts ← match separator with
      | .undefined => pure [t]
      | v => do
        let s := (← ScriptHost.toText v).units
        pure (if s.isEmpty then us.map fun u => .ofUnits [u]
          else (Units.splitBy s (us.length + 1) [] us).map .ofUnits)
    newList ((parts.take room).map .string)

/-- The text of code points. -/
def pointsText : List Value → Script (List UInt16)
  | [] => return []
  | v :: rest => do
    let d ← toNumber v
    match d.toInt? with
    | some n =>
      if 0 ≤ n && n ≤ 0x10FFFF then return Units.ofPoint n.toNat ++ (← pointsText rest)
      else throwNew .rangeError "invalid code point"
    | none => throwNew .rangeError "invalid code point"

/-- The raw parts of a template with values in between. -/
def rawText (template : Value) (values : List Value) : Script Text := do
  let r ← toObject template
  let (parts, count) ← do
    let parts : Value := .object (← toObject (← getOf r "raw"))
    pure (parts, ← lengthOf parts)
  let items ← itemsFrom parts count 0
  go items values
where
  /-- The parts in a row with the values between them. -/
  go : List Value → List Value → Script Text
    | [], _ => return .unicode ""
    | [part], _ => ScriptHost.toText part
    | part :: parts, values => do
      let t ← ScriptHost.toText part
      let u ← match values with
        | v :: _ => ScriptHost.toText v
        | [] => pure (.unicode "")
      return t ++ u ++ (← go parts (values.drop 1))

/-- A text between tags. -/
def tagText (this : Value) (tag field : String) (v : Value) : Script Value := do
  let t ← receiverText this
  let detail ← if field.isEmpty then pure (Text.unicode "")
    else do
      let s ← ScriptHost.toText v
      let quoted := s.units.flatMap fun u =>
        if u.toNat = 0x22 then Units.ofString "&quot;" else [u]
      pure (.unicode (" " ++ field ++ "=\"") ++ .ofUnits quoted ++ .unicode "\"")
  return .string (.unicode ("<" ++ tag) ++ detail ++ .unicode ">" ++ t
    ++ .unicode ("</" ++ tag ++ ">"))

/-! ### Methods -/

/-- What a function of `String` or a method of texts does. -/
def TextMethod.run (f : TextMethod) (this : Value) (args : List Value) : Script Value :=
  let first := argument args 0
  let second := argument args 1
  match f with
  | .ofUnits => do
    let us ← args.mapM fun v => do return UInt16.ofNat ((← toNumber v).wrap 16)
    return .string (.ofUnits us)
  | .ofCodes => do return .string (.ofUnits (← pointsText args))
  | .raw => do return .string (← rawText first (args.drop 1))
  | .atIndex => do
    let us := (← receiverText this).units
    let i := (← toInteger first).clampTo (-(maxLength : Int)) maxLength
    let i := if i < 0 then i + us.length else i
    if i < 0 then return .undefined
    else return .ofText? (us[i.toNat]?.map fun u => .ofUnits [u])
  | .codeAt => do
    let us := (← receiverText this).units
    let i := (← toInteger first).clampTo (-1) maxLength
    if i < 0 then return .number .nan
    else return (us[i.toNat]?.map fun u => .ofNat u.toNat).getD (.number .nan)
  | .unitAt => do
    let us := (← receiverText this).units
    let i := (← toInteger first).clampTo (-1) maxLength
    if i < 0 then return .ofString ""
    else return .string ((us[i.toNat]?.map fun u => .ofUnits [u]).getD (.unicode ""))
  | .concat => do
    let t ← receiverText this
    return .string (← args.foldlM (fun t v => do return t ++ (← ScriptHost.toText v)) t)
  | .pointAt => do
    let us := (← receiverText this).units
    let i := (← toInteger first).clampTo (-1) maxLength
    if i < 0 then return .undefined
    else
      return ((Units.toPoints ((us.drop i.toNat).take 2)).head?.map .ofNat).getD .undefined
  | .isWellFormed => do
    return .bool (← receiverText this).toUnicode.toOption.isSome
  | .toWellFormed => do
    let ps := Units.toPoints (← receiverText this).units
    let mended := ps.map fun n => if 0xD800 ≤ n && n < 0xE000 then 0xFFFD else n
    return .string (.ofUnits (mended.flatMap Units.ofPoint))
  | .indexOf => do
    let us := (← receiverText this).units
    let part := (← ScriptHost.toText first).units
    let start ← boundedIndex second us.length
    return (Units.find? part us start).elim (.ofInt (-1)) .ofNat
  | .lastIndexOf => do
    let us := (← receiverText this).units
    let part := (← ScriptHost.toText first).units
    let d ← toNumber second
    let bound := if d.isNaN then us.length else (d.clampTo 0 us.length).toNat
    if part.length > us.length then return .ofInt (-1)
    else
      let bound := min bound (us.length - part.length)
      return (Units.findLast? part us bound).elim (.ofInt (-1)) .ofNat
  | .includes => do
    let us := (← receiverText this).units
    let part := (← plainText first).units
    let start ← boundedIndex second us.length
    return .bool (Units.find? part us start).isSome
  | .startsWith => do
    let us := (← receiverText this).units
    let part := (← plainText first).units
    return .bool (Units.standsAt part us (← boundedIndex second us.length))
  | .endsWith => do
    let us := (← receiverText this).units
    let part := (← plainText first).units
    let bound ← match second with
      | .undefined => pure us.length
      | v => boundedIndex v us.length
    return .bool (part.length ≤ bound && Units.standsAt part (us.take bound) (bound - part.length))
  | .matching => findInText this first .matching false
  | .matchingAll => findInText this first .matchingAll true
  | .search => findInText this first .searching false
  | .split => splitText this first second
  | .substring => do
    let us := (← receiverText this).units
    let a ← boundedIndex first us.length
    let b ← match second with
      | .undefined => pure us.length
      | v => boundedIndex v us.length
    return .string (.ofUnits ((us.take (max a b)).drop (min a b)))
  | .substr => do
    let us := (← receiverText this).units
    let a ← relativeIndex us.length first 0
    let n ← match second with
      | .undefined => pure us.length
      | v => boundedIndex v (us.length - a)
    return .string (.ofUnits ((us.drop a).take n))
  | .slice => do
    let us := (← receiverText this).units
    let a ← relativeIndex us.length first 0
    let b ← relativeIndex us.length second us.length
    return .string (.ofUnits ((us.take b).drop a))
  | .replicate => do
    let t ← receiverText this
    let n := (← toInteger first).clampTo (-1) maxLength
    if n < 0 || n > twoTo 31 - 1 then throwNew .rangeError "invalid repeat count"
    else if t.length * n.toNat ≥ twoTo 30 then throwNew .rangeError "invalid string length"
    else return .string (t.replicate n.toNat)
  | .replace => replaceText this first second false
  | .replaceAll => replaceText this first second true
  | .padEnd => do
    let (t, filler) ← padding this first second
    return .string (t ++ .ofUnits filler)
  | .padStart => do
    let (t, filler) ← padding this first second
    return .string (.ofUnits filler ++ t)
  | .trim => do
    let us := (← receiverText this).units
    return .string (.ofUnits
      (((us.dropWhile Units.isBlank).reverse.dropWhile Units.isBlank).reverse))
  | .trimEnd => do
    let us := (← receiverText this).units
    return .string (.ofUnits ((us.reverse.dropWhile Units.isBlank).reverse))
  | .trimStart => do
    let us := (← receiverText this).units
    return .string (.ofUnits (us.dropWhile Units.isBlank))
  | .toText | .valueOf => do return .string (← wrappedText this)
  | .compare => do
    let ps := normalPoints .standard (← receiverText this)
    let qs := normalPoints .standard (← ScriptHost.toText first)
    return .ofInt (if ps = qs then 0 else if ps < qs then -1 else 1)
  | .lower => do
    let ps := Units.toPoints (← receiverText this).units
    return .string (.ofUnits ((Case.lowerAll ps).flatMap Units.ofPoint))
  | .upper => do
    let ps := Units.toPoints (← receiverText this).units
    return .string (.ofUnits ((Case.upperAll ps).flatMap Units.ofPoint))
  | .iterator => do newWalk .characters (.units (← receiverText this) 0)
  | .tagged tag field => tagText this tag field first
  | .normalize => do
    let t ← receiverText this
    let form ← match first with
      | .undefined => pure NormalForm.standard
      | v => do
        match formOf? (← ScriptHost.toText v) with
        | some form => pure form
        | none => throwNew .rangeError "bad normalization form"
    return .string (.ofUnits ((normalPoints form t).flatMap Units.ofPoint))

end ScriptHost
