import ScriptHost.Library.Functions
import ScriptHost.Library.Species
import ScriptHost.Regex.Reader
import ScriptHost.Regex.Search

/-!
# Patterns

* `Matcher`: a regular expression as an object, and `Matcher.exec`, which looks for it in a text;
* `makePattern`: new patterns;
* `execOn`: what a pattern finds, which may be told by a script;
* `matchIn`, `replaceIn`, `splitBy`, `searchIn`: what the methods of texts do with patterns;
* `PatternMethod.run`: the methods of patterns.
-/

namespace ScriptHost

/-! ### Patterns as objects -/

/-- A regular expression as an object: where it lies, the text that spells it, what it says. -/
structure Matcher where
  object : Ref
  source : Text
  program : Regex.Program

/-- The pattern that a value is. -/
def matcherOf? (v : Value) : Script (Option Matcher) := do
  match v with
  | .object r =>
    match (← readObject r).kind with
    | .regexp source program => return some ⟨r, source, program⟩
    | _ => return none
  | _ => return none

/-- The pattern that a value has to be. -/
def requireMatcher (v : Value) : Script Matcher := do
  match ← matcherOf? v with
  | some p => return p
  | none => throwType "RegExp object expected"

/-- Whether a value counts as a pattern: it says so itself, or is one. -/
def isPattern (v : Value) : Script Bool := do
  match v with
  | .object _ =>
    match ← getProperty v (.known .matching) with
    | .undefined => return (← matcherOf? v).isSome
    | answer => return answer.truthy
  | _ => return false

namespace Matcher

/-- Whether a flag is set. -/
def has (p : Matcher) (letter : Char) : Bool := p.program.flags.has letter

/-- Sets the place where the next search begins. -/
def moveTo (p : Matcher) (i : Nat) : Script Unit :=
  setProperty (.object p.object) "lastIndex" (.ofNat i)

/-- An object with a property for each group that has a name, or undefined if none has. -/
def named (p : Matcher) (found : Nat → Value) : Script Value := do
  if p.program.names.isEmpty then return .undefined
  else
    let r ← newPlain none
    p.program.names.forM fun (name, n) => createProperty r name (found n)
    return .object r

/-- What is told about a place where the pattern was found. -/
def answer (p : Matcher) (t : Text) (units : Array UInt16) (groups : Regex.Groups) :
    Script Value := do
  let group (n : Nat) : Option (Nat × Nat) := (groups[n]?).join
  let part (n : Nat) : Value := .ofText? ((group n).map fun (first, last) =>
    .ofUnits (units.extract first last).toList)
  let numbers := List.range (p.program.groups + 1)
  let r ← requireObject (← newList (numbers.map part)) "not an object"
  let names ← p.named part
  createProperty r "groups" names
  createProperty r "index" (.ofNat ((group 0).elim 0 Prod.fst))
  createProperty r "input" (.string t)
  if p.has 'd' then
    let places ← numbers.mapM fun n =>
      match group n with
      | some (first, last) => newList [.ofNat first, .ofNat last]
      | none => pure .undefined
    let indices ← requireObject (← newList places) "not an object"
    createProperty indices "groups" (← p.named fun n => places.getD n .undefined)
    createProperty r "indices" (.object indices)
  return .object r

/-- Looks for the pattern in a text of the given units, from where the last search ended if the
flags say so. -/
def execIn (p : Matcher) (t : Text) (units : Array UInt16) : Script Value := do
  let last ← toLength (← getOf p.object "lastIndex")
  let keeps := p.has 'g' || p.has 'y'
  let first := if keeps then last else 0
  let missed : Script Value := do
    if keeps then p.moveTo 0
    return .null
  if units.size < first then missed
  else
    match p.program.search units first with
    | .found groups =>
      if keeps then p.moveTo (((groups[0]?).join).elim 0 Prod.snd)
      p.answer t units groups
    | .missed => missed
    | .endless => timeUp

/-- Looks for the pattern in the text of a value. -/
def exec (p : Matcher) (v : Value) : Script Value := do
  let t ← toText v
  p.execIn t t.units.toArray

end Matcher

/-! ### New patterns -/

/-- The place where the next search begins, as a new pattern has it. -/
def lastIndexProperty : Key × Property := ("lastIndex", .data (.ofNat 0) ⟨true, false, false⟩)

/-- A pattern object. -/
def patternObject (source : Text) (program : Regex.Program) (prototype : Ref) : Object where
  kind := .regexp source program
  prototype := some prototype
  properties := [lastIndexProperty]

/-- The regular expression that a text spells, with the flags that a value tells. -/
def readPattern (source : Text) (flags : Value) : Script Regex.Program := do
  let letters ← match flags with
    | .undefined => pure []
    | v => do pure ((← toText v).units.map fun u => Char.ofNat u.toNat)
  match Regex.Flags.ofChars? letters with
  | none => throwNew .syntaxError "invalid regular expression flags"
  | some flags =>
    match Regex.read flags source.units with
    | .ok program => return program
    | .error complaint => throwNew .syntaxError complaint.message

/-- A new pattern, made of another one or of a text. -/
def makePattern (how : Invocation) (args : List Value) : Script Value := do
  let v := argument args 0
  let flags := argument args 1
  let counts ← isPattern v
  let (source, program) ← match ← matcherOf? v with
    | some p =>
      match flags with
      | .undefined => pure (p.source, p.program)
      | flags => do pure (p.source, ← readPattern p.source flags)
    | none => do
      let source ← if counts then getProperty v "source" else pure v
      let flags ← match flags with
        | .undefined => if counts then getProperty v "flags" else pure .undefined
        | flags => pure flags
      let source ← match source with
        | .undefined => pure (.unicode "")
        | w => toText w
      pure (source, ← readPattern source flags)
  return .object (← allocate (patternObject source program (← prototypeFor how .regexp)))

/-- A new pattern of the ordinary class. -/
def newPattern (args : List Value) : Script Value := makePattern (.plain .undefined) args

/-- Gives the pattern itself for a call that does not make objects and tells no flags. -/
def patternOf (self : Ref) (args : List Value) : Script Value := do
  let v := argument args 0
  let same ← match argument args 1 with
    | .undefined => do
      if ← isPattern v then pure ((← getProperty v "constructor") == .object self)
      else pure false
    | _ => pure false
  if same then return v else makePattern (.making self) args

/-! ### Search -/

/-- Whether a function is the one by which patterns look for something. -/
def isExec (f : Value) : Script Bool := do
  match f with
  | .object r =>
    match (← readObject r).callable? with
    | some (.builtin (.pattern .exec)) => return true
    | _ => return false
  | _ => return false

/-- What a value that looks for something in a text finds there. -/
def execOn (rx text : Value) : Script Value := do
  let f ← getNamed rx "exec"
  if ← isCallable f then
    match ← call f rx [text] with
    | .null => return .null
    | .object r => return .object r
    | _ => throwType "RegExp exec method must return an object or null"
  else do (← requireMatcher rx).exec text

/-- The flags of a value that looks for something. -/
def flagsOf (rx : Value) : Script (List Char) := do
  let t ← toText (← getProperty rx "flags")
  return t.units.map fun u => Char.ofNat u.toNat

/-- Whether flags ask for code points. -/
def arePoints (flags : List Char) : Bool := flags.contains 'u' || flags.contains 'v'

/-- Looks for something again and again, in so many searches at most; after nothing but an empty
part the next search begins one code further. -/
def findMore (rx : Value) (search : Script Value) (units : Array UInt16) (points : Bool) :
    Nat → Script (List Value)
  | 0 => timeUp
  | fuel + 1 => do
    match ← search with
    | .null => return []
    | found =>
      let part ← toText (← getProperty found "0")
      if part.isEmpty then
        let i ← toLength (← getProperty rx "lastIndex")
        setProperty rx "lastIndex" (.ofNat (Units.placeAfter units points i))
      let rest ← findMore rx search units points fuel
      return found :: rest

/-- How to look for something in a text of the given units. -/
def searchFor (rx : Value) (t : Text) (units : Array UInt16) : Script (Script Value) := do
  match ← matcherOf? rx with
  | some p =>
    if ← isExec (← getProperty rx "exec") then return p.execIn t units
    else return execOn rx (.string t)
  | none => return execOn rx (.string t)

/-- All that is found in a text, one after another, from its start. -/
def findAll (rx : Value) (t : Text) (points : Bool) : Script (List Value) := do
  setProperty rx "lastIndex" (.ofNat 0)
  let units := t.units.toArray
  findMore rx (← searchFor rx t units) units points maxValues

/-- What a pattern finds in a text: all the parts, or the first with its place. -/
def matchIn (rx text : Value) : Script Value := do
  let _ ← requireObject rx "not an object"
  let t ← toText text
  let flags ← flagsOf rx
  if flags.contains 'g' then
    match ← findAll rx t (arePoints flags) with
    | [] => return .null
    | found => newList (← found.mapM fun v => do
        return .string (← toText (← getProperty v "0")))
  else execOn rx (.string t)

/-- A copy of a pattern, made by the constructor that it chooses, with the flags that a function
makes of its own, and these. -/
def copyPattern (rx : Value) (change : List Char → List Char) : Script (Value × List Char) := do
  let species ← speciesOf rx
  let flags ← flagsOf rx
  let args := [rx, .ofString (String.ofList (change flags))]
  let copy ← match species with
    | none => newPattern args
    | some c => constructNew c args
  return (copy, flags)

/-- What walks through all that a pattern finds in a text. -/
def matchAllIn (rx text : Value) : Script Value := do
  let _ ← requireObject rx "not an object"
  let t ← toText text
  let (copy, flags) ← copyPattern rx id
  let last ← toLength (← getProperty rx "lastIndex")
  setProperty copy "lastIndex" (.ofNat last)
  match copy with
  | .object r => newWalk .finds (.finds r t (flags.contains 'g') (arePoints flags))
  | v => return v

/-- The place where a pattern finds something in a text. -/
def searchIn (rx text : Value) : Script Value := do
  let _ ← requireObject rx "not an object"
  let t ← toText text
  let before ← getProperty rx "lastIndex"
  if !before.same (.ofNat 0) then setProperty rx "lastIndex" (.ofNat 0)
  let found ← execOn rx (.string t)
  let after ← getProperty rx "lastIndex"
  if !after.same before then setProperty rx "lastIndex" before
  match found with
  | .null => return .ofInt (-1)
  | v => getProperty v "index"

/-! ### Replacement -/

/-- A place that was found in a text, with what its groups found. -/
structure Finding where
  whole : Array UInt16
  found : List UInt16
  place : Nat
  groups : List Value
  names : Value

/-- The text of a value, unless it is undefined. -/
def optionalText (v : Value) : Script (List UInt16) := do
  match v with
  | .undefined => return []
  | v => return (← toText v).units

/-- The value of a decimal digit. -/
def unitDigit? (u : UInt16) : Option Nat :=
  if 0x30 ≤ u.toNat && u.toNat ≤ 0x39 then some (u.toNat - 0x30) else none

/-- The group that the digits after a dollar name, and what follows them: two digits, if there is
such a group, or else one. -/
def Finding.numbered? (m : Finding) (digit : Nat) (rest : List UInt16) :
    Option (Value × List UInt16) :=
  let one := if 1 ≤ digit then (m.groups[digit - 1]?).map fun v => (v, rest) else none
  match rest.head?.bind unitDigit? with
  | none => one
  | some second =>
    let n := 10 * digit + second
    let two := if 1 ≤ n then (m.groups[n - 1]?).map fun v => (v, rest.drop 1) else none
    two.or one

/-- The units that take the place of what was found: marks after a dollar stand for parts of the
text. -/
def Finding.fill (m : Finding) : Nat → List UInt16 → Script (List UInt16)
  | 0, us => return us
  | _, [] => return []
  | _, [u] => return [u]
  | fuel + 1, u :: v :: rest => do
    let plain : Script (List UInt16) := do return u :: (← m.fill fuel (v :: rest))
    if u.toNat != 0x24 then plain
    else
      match v.toNat with
      | 0x24 => return v :: (← m.fill fuel rest)
      | 0x26 => return m.found ++ (← m.fill fuel rest)
      | 0x60 => return (m.whole.extract 0 m.place).toList ++ (← m.fill fuel rest)
      | 0x27 =>
        let after := m.whole.extract (m.place + m.found.length) m.whole.size
        return after.toList ++ (← m.fill fuel rest)
      | 0x3C =>
        let name := rest.takeWhile fun w => w.toNat != 0x3E
        if m.names = .undefined || name.length = rest.length then plain
        else
          let group ← optionalText (← getProperty m.names (.text (.ofUnits name)))
          return group ++ (← m.fill fuel (rest.drop (name.length + 1)))
      | _ =>
        match (unitDigit? v).bind fun digit => m.numbered? digit rest with
        | some (group, rest) => do
          let group ← optionalText group
          return group ++ (← m.fill fuel rest)
        | none => plain

/-- A function as it is, and the text of any other value. -/
def settled (v : Value) : Script Value := do
  if ← isCallable v then return v else return .string (← toText v)

/-- What takes the place of something that was found. -/
def Finding.replacement (m : Finding) (new : Value) : Script (List UInt16) := do
  if ← isCallable new then
    let args := .string (.ofUnits m.found) :: m.groups
      ++ [.ofNat m.place, .string (.ofUnits m.whole.toList)]
      ++ (if m.names = .undefined then [] else [m.names])
    return (← toText (← call new .undefined args)).units
  else
    let us := (← toText new).units
    let m ← if m.names = .undefined then pure m
      else do pure { m with names := .object (← toObject m.names) }
    m.fill (us.length + 1) us

/-- What is told about something that a pattern found. -/
def findingOf (whole : Array UInt16) (v : Value) : Script Finding := do
  let count ← lengthOf v
  let found := (← toText (← getProperty v "0")).units
  let place ← toLength (← getProperty v "index")
  let groups ← (List.range (count - 1)).mapM fun i => do
    match ← getProperty v (.item (i + 1)) with
    | .undefined => return .undefined
    | w => return .string (← toText w)
  return ⟨whole, found, min place whole.size, groups, ← getProperty v "groups"⟩

/-- A text with new parts where something was found; what was found before `start` stays. -/
def replaceFound (whole : Array UInt16) (new : Value) (start : Nat) :
    List Value → Script (List UInt16)
  | [] => return (whole.extract start whole.size).toList
  | v :: rest => do
    let m ← findingOf whole v
    let part ← m.replacement new
    if start ≤ m.place then
      let after ← replaceFound whole new (m.place + m.found.length) rest
      return (whole.extract start m.place).toList ++ part ++ after
    else replaceFound whole new start rest

/-- A text in which what a pattern finds is replaced. -/
def replaceIn (rx text new : Value) : Script Value := do
  let _ ← requireObject rx "not an object"
  let t ← toText text
  let new ← settled new
  let flags ← flagsOf rx
  let found ← if flags.contains 'g' then findAll rx t (arePoints flags)
    else do
      match ← execOn rx (.string t) with
      | .null => pure []
      | v => pure [v]
  return .string (.ofUnits (← replaceFound t.units.toArray new 0 found))

/-! ### Parts -/

/-- The parts of a text from `start` on between the places where a pattern is found, which is looked
for from `i` on; at most `room` parts, and `none` for the room ends them. -/
def partsFrom (rx : Value) (search : Script Value) (units : Array UInt16) (points : Bool) :
    Nat → Nat → Nat → Script (List Value)
  | 0, _, _ => timeUp
  | fuel + 1, start, i => do
    let part (stop : Nat) : Value := .string (.ofUnits (units.extract start stop).toList)
    if units.size ≤ i then return [part units.size]
    else
      setProperty rx "lastIndex" (.ofNat i)
      let further := Units.placeAfter units points i
      match ← search with
      | .null => partsFrom rx search units points fuel start further
      | found =>
        let stop := min units.size (← toLength (← getProperty rx "lastIndex"))
        if stop = start then partsFrom rx search units points fuel start further
        else
          let count ← lengthOf found
          let groups ← (List.range (count - 1)).mapM fun k => getProperty found (.item (k + 1))
          let rest ← partsFrom rx search units points fuel stop stop
          return part i :: groups ++ rest

/-- How many parts a limit allows for. -/
def partLimit (limit : Value) : Script Nat := do
  match limit with
  | .undefined => return twoTo 32 - 1
  | v => return (← toNumber v).wrap 32

/-- The parts of a text between the places where a pattern is found. -/
def splitBy (rx text limit : Value) : Script Value := do
  let _ ← requireObject rx "not an object"
  let t ← toText text
  let (copy, flags) ← copyPattern rx fun fs => if fs.contains 'y' then fs else fs ++ ['y']
  let room ← partLimit limit
  let parts ← if room = 0 then pure []
    else if t.isEmpty then do
      match ← execOn copy (.string t) with
      | .null => pure [.string t]
      | _ => pure []
    else do
      let units := t.units.toArray
      partsFrom copy (← searchFor copy t units) units (arePoints flags) (2 * units.size + 2) 0 0
  newList (parts.take room)

/-! ### Methods -/

/-- The pattern that a method works on, unless it works on the prototype of all patterns. -/
def receiverPattern? (this : Value) : Script (Option Matcher) := do
  let r ← requireObject this "not an object"
  if r = Family.regexp.prototype then return none else return some (← requireMatcher this)

/-- The units of a source, where slashes and the ends of lines are written as escapes.  A bracket
that closes a class does not do so at its start. -/
def sourceUnits : Bool → Bool → List UInt16 → List UInt16
  | _, _, [] => []
  | escaped, inClass, u :: rest =>
    let n := u.toNat
    if escaped then u :: sourceUnits false inClass rest
    else if n = 0x5C then u :: sourceUnits true inClass rest
    else if n = 0x5B then u :: sourceUnits (!inClass && rest.head? == some 0x5D) true rest
    else if n = 0x5D then u :: sourceUnits false false rest
    else if n = 0x2F && !inClass then 0x5C :: u :: sourceUnits false inClass rest
    else if n = 0xA then 0x5C :: 0x6E :: sourceUnits false inClass rest
    else if n = 0xD then 0x5C :: 0x72 :: sourceUnits false inClass rest
    else u :: sourceUnits false inClass rest

/-- The letters of the flags whose properties are set. -/
def setFlags (this : Value) : List Char → Script (List Char)
  | [] => return []
  | c :: rest => do
    let set ← match PatternMethod.flagNames.find? fun (_, d) => d = c with
      | some (name, _) => do pure (← getProperty this name).truthy
      | none => pure false
    let cs ← setFlags this rest
    return if set then c :: cs else cs

/-- Makes another expression of a pattern. -/
def recompile (p : Matcher) (v flags : Value) : Script Unit := do
  let (source, program) ← match ← matcherOf? v with
    | some q =>
      match flags with
      | .undefined => pure (q.source, q.program)
      | _ => throwType "flags must be undefined"
    | none => do
      let source ← match v with
        | .undefined => pure (.unicode "")
        | w => toText w
      pure (source, ← readPattern source flags)
  become p.object (.regexp source program)
  p.moveTo 0

/-- What a method of patterns does. -/
def PatternMethod.run (f : PatternMethod) (this : Value) (args : List Value) : Script Value :=
  let first := argument args 0
  let second := argument args 1
  match f with
  | .source => do
    match ← receiverPattern? this with
    | some p =>
      if p.source.isEmpty then return .ofString "(?:)"
      else return .string (.ofUnits (sourceUnits false false p.source.units))
    | none => return .ofString "(?:)"
  | .flags => do
    let _ ← requireObject this "not an object"
    return .ofString (String.ofList (← setFlags this Regex.flagLetters))
  | .flag letter => do
    match ← receiverPattern? this with
    | some p => return .bool (p.has letter)
    | none => return .undefined
  | .exec => do (← requireMatcher this).exec first
  | .compile => do
    recompile (← requireMatcher this) first second
    return this
  | .test => do return .bool ((← execOn this first) != .null)
  | .toText => do
    let _ ← requireObject this "not an object"
    let source ← ScriptHost.toText (← getProperty this "source")
    let flags ← ScriptHost.toText (← getProperty this "flags")
    return .string (.unicode "/" ++ source ++ .unicode "/" ++ flags)
  | .replacing => replaceIn this first second
  | .matching => matchIn this first
  | .matchingAll => matchAllIn this first
  | .searching => searchIn this first
  | .splitting => splitBy this first second

end ScriptHost
