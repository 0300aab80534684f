import ScriptHost.Regex.Syntax
import ScriptHost.Text.Digits
import ScriptHost.Text.Categories
import ScriptHost.Text.WritingSystems

/-!
# Reading regular expressions

* `Regex.Complaint`: what is wrong with a text that spells no regular expression;
* `Regex.Grammar`: what is known about a text before it is read;
* `Regex.read`: the regular expression that a text spells.

Unless it is about code points, a text may hold escapes that mean nothing, which stand for the
characters that follow them, and braces that count nothing, which stand for themselves.
-/

namespace ScriptHost

namespace Regex

/-! ### Complaints -/

/-- What is wrong with the text of a regular expression. -/
inductive Complaint
  | nothingToRepeat
  | repetition
  | group
  | unclosed (c : Char)
  | extraneous
  | ending
  | noName
  | badName
  | doubleName
  | unknownName
  | range
  | escape
  | digits
  | reference
  | stray
  | noProperty
  | property
  | propertyValue
  | script
  | category
  | tooManyGroups
  deriving DecidableEq, Repr

def Complaint.message : Complaint → String
  | nothingToRepeat => "nothing to repeat"
  | repetition => "invalid repetition count"
  | group => "invalid group"
  | unclosed c => "expecting '" ++ String.singleton c ++ "'"
  | extraneous => "extraneous characters at the end"
  | ending => "unexpected end"
  | noName => "expecting group name"
  | badName => "invalid group name"
  | doubleName => "duplicate group name"
  | unknownName => "group name not defined"
  | range => "invalid class range"
  | escape => "invalid escape sequence in regular expression"
  | digits => "invalid decimal escape in regular expression"
  | reference => "back reference out of range in regular expression"
  | stray => "syntax error"
  | noProperty => "expecting '\x7b' after \\p"
  | property => "unknown unicode property name"
  | propertyValue => "unknown unicode property value"
  | script => "unknown unicode script"
  | category => "unknown unicode general category"
  | tooManyGroups => "too many captures"

/-! ### Codes -/

/-- The codes of a text: its units, or its code points. -/
def codesOf (points : Bool) : List UInt16 → List Nat
  | [] => []
  | [u] => [u.toNat]
  | u :: v :: rest =>
    if points && Units.isHigh u && Units.isLow v then
      (Units.pair u v).toNat :: codesOf points rest
    else u.toNat :: codesOf points (v :: rest)

/-- A code as a character of ASCII; all other codes are one and the same sign. -/
def sign (c : Nat) : Char := if c < 0x80 then Char.ofNat c else Char.ofNat 0xFFFD

/-- The signs at the start of codes, so many. -/
def signs (n : Nat) (cs : List Nat) : List Char := (cs.take n).map sign

/-- Whether codes begin with some characters. -/
def startsWith (s : String) (cs : List Nat) : Bool := signs s.length cs = s.toList

def isDigit (c : Nat) : Bool := (sign c).isDigit

def isOctal (c : Nat) : Bool := isDigit c && c < 0x38

/-- The number that exactly so many hexadecimal digits at the start spell, and what follows. -/
def hexadecimal? (n : Nat) (cs : List Nat) : Option (Nat × List Nat) :=
  if cs.length < n then none
  else (Digits.inBase? 16 (signs n cs)).map fun k => (k, cs.drop n)

/-- The number in braces, and what follows them. -/
def braced? (cs : List Nat) : Option (Nat × List Nat) :=
  let ds := cs.takeWhile fun c => sign c != '\x7d'
  if ds.isEmpty || ds.length = cs.length then none
  else (Digits.inBase? 16 (ds.map sign)).bind fun k =>
    if k ≤ Ranges.maxCode then some (k, cs.drop (ds.length + 1)) else none

/-- The code that four digits spell; two such escapes in a row may be a pair of surrogates. -/
def fourDigits? (points : Bool) (cs : List Nat) : Option (Nat × List Nat) :=
  (hexadecimal? 4 cs).map fun (high, rest) =>
    let second := if startsWith "\\u" rest then hexadecimal? 4 (rest.drop 2) else none
    match second with
    | some (low, rest') =>
      let u := UInt16.ofNat high
      let v := UInt16.ofNat low
      if points && Units.isHigh u && Units.isLow v then ((Units.pair u v).toNat, rest')
      else (high, rest)
    | none => (high, rest)

/-- The code that octal digits spell, of which `room` more may follow. -/
def octal : Nat → Nat → List Nat → Nat × List Nat
  | room + 1, n, c :: rest =>
    if isOctal c && n < 32 then octal room (8 * n + (c - 0x30)) rest else (n, c :: rest)
  | _, n, cs => (n, cs)

/-- The code that an escape stands for that means one in every place, and what follows. -/
def escaped? (points : Bool) (cs : List Nat) : Option (Nat × List Nat) :=
  match cs with
  | [] => none
  | c :: rest =>
    match sign c with
    | 'b' => some (8, rest)
    | 'f' => some (12, rest)
    | 'n' => some (10, rest)
    | 'r' => some (13, rest)
    | 't' => some (9, rest)
    | 'v' => some (11, rest)
    | 'x' => hexadecimal? 2 rest
    | 'u' =>
      if points && startsWith "\x7b" rest then braced? (rest.drop 1) else fourDigits? points rest
    | _ =>
      if !isOctal c then none
      else if points then
        if c = 0x30 && !(rest.head?.any isDigit) then some (0, rest) else none
      else some (octal 2 (c - 0x30) rest)

/-! ### Readings -/

/-- What is known about a text before it is read. -/
structure Grammar where
  flags : Flags
  /-- How many groups the text has. -/
  groups : Nat
  /-- The groups that have names. -/
  names : List (String × Nat)

/-- How far a text is read, and how many groups began so far. -/
structure Position where
  rest : List Nat
  groups : Nat

/-- A reading of a part of a text. -/
abbrev Reading := StateT Position (Except Complaint)

def complain {α : Type} (c : Complaint) : Reading α := fun _ => .error c

/-- The codes that are not yet read. -/
def remaining : Reading (List Nat) := fun p => .ok (p.rest, p)

/-- Goes on with other codes. -/
def goOn (rest : List Nat) : Reading Unit := fun p => .ok ((), { p with rest })

/-- The sign that comes next. -/
def next? : Reading (Option Char) := do return (← remaining).head?.map sign

/-- Leaves out so many codes. -/
def skip (n : Nat) : Reading Unit := do goOn ((← remaining).drop n)

/-- Reads a character that has to be there. -/
def expect (c : Char) : Reading Unit := do
  if (← next?) = some c then skip 1 else complain (.unclosed c)

/-- The number of a group that begins here. -/
def openGroup : Reading Nat := fun p =>
  if p.groups + 1 ≥ 255 then .error .tooManyGroups
  else .ok (p.groups + 1, { p with groups := p.groups + 1 })

/-! ### Names of groups -/

/-- Whether a code can begin a name. -/
def startsName (c : Nat) : Bool :=
  if c < 0x80 then (sign c).isAlpha || sign c = '$' || sign c = '_'
  else Trait.nameStart.codes.has c

/-- Whether a code can go on with a name. -/
def continuesName (c : Nat) : Bool :=
  if c < 0x80 then startsName c || isDigit c
  else c = 0x200C || c = 0x200D || Trait.nameContinue.codes.has c

/-- The first code, or the code point that it makes up with the next one. -/
def firstPoint? : List Nat → Option (Nat × List Nat)
  | [] => none
  | [c] => some (c, [])
  | c :: d :: rest =>
    let u := UInt16.ofNat c
    let v := UInt16.ofNat d
    if c < 0x10000 && d < 0x10000 && Units.isHigh u && Units.isLow v then
      some ((Units.pair u v).toNat, rest)
    else some (c, d :: rest)

/-- The bytes that a name takes at most. -/
def maxName : Nat := 124

/-- The name up to the bracket that closes it, and what follows. -/
def nameFrom : Nat → String → List Nat → Option (String × List Nat)
  | 0, _, _ => none
  | _, _, [] => none
  | fuel + 1, name, c :: rest =>
    if sign c = '>' then if name.isEmpty then none else some (name, rest)
    else do
      let (c, rest) ← if sign c = '\\' then
          if startsWith "u" rest then escaped? true rest else none
        else firstPoint? (c :: rest)
      if (if name.isEmpty then startsName c else continuesName c)
          && name.utf8ByteSize < maxName then
        nameFrom fuel (name.push (Char.ofNat c)) rest
      else none

/-- The name of a group, and what follows it. -/
def name? (cs : List Nat) : Option (String × List Nat) := nameFrom (cs.length + 1) "" cs

/-- What follows the bracket that closes a class of codes. -/
def afterClass : List Nat → List Nat
  | [] => []
  | [_] => []
  | c :: d :: rest =>
    if sign c = ']' then d :: rest
    else if sign c = '\\' then afterClass rest
    else afterClass (d :: rest)

/-- The groups of a text, in their order, with the names that they have; a name that is none is
empty. -/
def groupsIn : Nat → List Nat → List (Option String)
  | 0, _ => []
  | _, [] => []
  | fuel + 1, c :: rest =>
    match sign c with
    | '\\' => groupsIn fuel (rest.drop 1)
    | '[' => groupsIn fuel (afterClass rest)
    | '(' =>
      if !startsWith "?" rest then none :: groupsIn fuel rest
      else if startsWith "?<" rest && !startsWith "?<=" rest && !startsWith "?<!" rest then
        some ((name? (rest.drop 2)).elim "" Prod.fst) :: groupsIn fuel rest
      else groupsIn fuel rest
    | _ => groupsIn fuel rest

/-- What is known about a text with flags. -/
def Grammar.of (flags : Flags) (cs : List Nat) : Grammar :=
  let groups := groupsIn (cs.length + 1) cs
  { flags, groups := groups.length
    names := groups.zipIdx.filterMap fun (name, i) => name.map fun s => (s, i + 1) }

/-! ### Classes -/

/-- What one place of a class stands for. -/
inductive Atom
  | one (c : Nat)
  | ranges (rs : Ranges)

/-- The class that a letter after a backslash stands for. -/
def letterClass? : Char → Option Ranges
  | 'd' => some Ranges.digits
  | 'D' => some Ranges.digits.complement
  | 's' => some blanks
  | 'S' => some blanks.complement
  | 'w' => some Ranges.word
  | 'W' => some Ranges.word.complement
  | _ => none

/-- The characters that have a meaning of their own in a regular expression. -/
def isMark (c : Nat) : Bool := "^$\\.*+?()[]\x7b\x7d|/".toList.contains (sign c)

/-- The code that a letter with the control key stands for; a class also takes digits and the low
line, unless it is about code points. -/
def control? (points inClass : Bool) (c : Nat) : Option Nat :=
  let s := sign c
  if s.isAlpha || (inClass && !points && (s.isDigit || s = '_')) then some (c % 32) else none

/-! ### Properties -/

/-- Whether a code can stand in the name of a property. -/
def inProperty (c : Nat) : Bool := (sign c).isAlphanum || sign c = '_'

/-- The word at the start of codes, and what follows. -/
def propertyWord (cs : List Nat) : String × List Nat :=
  (String.ofList ((cs.takeWhile inProperty).map sign), cs.dropWhile inProperty)

/-- The code points of a property that has a name only. -/
def propertyCodes? (name : String) : Option Ranges :=
  match Category.named? name with
  | some cs => some (Category.codes cs)
  | none =>
    match name with
    | "Any" => some [(0, Ranges.maxCode)]
    | "ASCII" => some [(0, 0x7F)]
    | "Assigned" => some (Category.codes [.unassigned]).complement
    | _ => (Trait.named? name).map Trait.codes

/-- The code points of a property, told by its name and value. -/
def propertyRanges (name value : String) : Except Complaint Ranges :=
  let orElse (rs : Option Ranges) (c : Complaint) : Except Complaint Ranges :=
    rs.elim (.error c) .ok
  if name = "Script" || name = "sc" then
    orElse ((WritingSystem.named? value).map WritingSystem.codes) .script
  else if name = "Script_Extensions" || name = "scx" then
    orElse ((WritingSystem.named? value).map WritingSystem.allCodes) .script
  else if name = "General_Category" || name = "gc" then
    orElse ((Category.named? value).map Category.codes) .category
  else if value.isEmpty then orElse (propertyCodes? name) .property
  else .error .property

/-- The longest name of a property, or of its value. -/
def maxWord : Nat := 63

/-- The property in braces after its letter; a capital letter stands for all other codes. -/
def property (negated : Bool) : Reading Ranges := do
  if (← next?) ≠ some '\x7b' then complain .noProperty
  else
    skip 1
    let (name, rest) := propertyWord (← remaining)
    let (value, rest) := if startsWith "=" rest then propertyWord (rest.drop 1) else ("", rest)
    if maxWord < name.length then complain .property
    else if maxWord < value.length then complain .propertyValue
    else
      goOn rest
      expect '\x7d'
      match propertyRanges name value with
      | .ok rs => return if negated then rs.complement else rs
      | .error c => complain c

/-! ### Escapes -/

/-- The code or the class after a backslash. -/
def escapedAtom (g : Grammar) (inClass : Bool) : Reading Atom := do
  match ← remaining with
  | [] => complain .ending
  | c :: rest =>
    let points := g.flags.points
    match letterClass? (sign c) with
    | some rs =>
      goOn rest
      return .ranges rs
    | none =>
      if sign c = 'c' then
        match rest.head?.bind (control? points inClass) with
        | some k =>
          goOn (rest.drop 1)
          return .one k
        | none => if points then complain .escape else return .one '\\'.toNat
      else if points && (sign c = 'p' || sign c = 'P') then
        goOn rest
        return .ranges (← property (sign c = 'P'))
      else
        match escaped? points (c :: rest) with
        | some (k, rest) =>
          goOn rest
          return .one k
        | none =>
          if points && !isMark c && !(inClass && sign c = '-') then complain .escape
          else
            goOn rest
            return .one c

/-- A code, or the class that an escape stands for. -/
def atom (g : Grammar) (inClass : Bool) : Reading Atom := do
  match ← remaining with
  | [] => complain .ending
  | c :: rest =>
    goOn rest
    if sign c = '\\' then escapedAtom g inClass else return .one c

/-- The ranges of a class up to the bracket that closes it. -/
def classRanges (g : Grammar) : Nat → Reading Ranges
  | 0 => complain .ending
  | fuel + 1 => do
    if (← next?) = some ']' then
      skip 1
      return []
    let first ← atom g true
    let rest ← remaining
    let points := g.flags.points
    let last ← if startsWith "-" rest && !startsWith "-]" rest then do
        match first with
        | .ranges _ => if points then complain .range else pure none
        | .one _ =>
          goOn (rest.drop 1)
          match ← atom g true with
          | .one high => pure (some high)
          | .ranges _ =>
            if points then complain .range
            else
              goOn rest
              pure none
      else pure none
    let found ← match first, last with
      | .one low, some high => if high < low then complain .range else pure [(low, high)]
      | .one c, none => pure [(c, c)]
      | .ranges rs, _ => pure rs
    return found ++ (← classRanges g fuel)

/-- What must not be all that a class holds, if the flag `v` is set. -/
def reserved : List String :=
  ["(", ")", "[", "]", "\x7b", "\x7d", "/", "-", "|", "&&", "!!", "##", "$$", "%%", "**", "++",
    ",,", "..", "::", ";;", "<<", "==", ">>", "??", "@@", "\x60\x60", "~~", "^^^", "_^^"]

/-- A class of codes after the bracket that opens it. -/
def codeClass (g : Grammar) : Reading Regex := do
  let cs ← remaining
  if g.flags.has 'v' && reserved.any fun s => startsWith (s ++ "]") cs then complain .range
  let negated ← if (← next?) = some '^' then do
      skip 1
      pure true
    else pure false
  let ranges ← classRanges g ((← remaining).length + 1)
  return .code ⟨ranges, negated, true⟩

/-! ### Repetition -/

/-- Counts from here on are without a bound. -/
def unbounded : Nat := twoTo 31 - 1

/-- The number that digits at the start spell, and what follows. -/
def count (cs : List Nat) : Nat × List Nat :=
  (min unbounded (Digits.decimal ((cs.takeWhile isDigit).map sign)), cs.dropWhile isDigit)

/-- The bounds in braces, and what follows the last of them. -/
def bounds? (cs : List Nat) : Option (Nat × Option Nat × List Nat) :=
  if !(cs.head?.any isDigit) then none
  else
    let (low, rest) := count cs
    if !startsWith "," rest then some (low, some low, rest)
    else
      let rest := rest.drop 1
      if rest.head?.any isDigit then
        let (high, rest) := count rest
        some (low, some high, rest)
      else some (low, none, rest)

/-- How often what was read may come, if that is told. -/
def repetition? (g : Grammar) : Reading (Option (Nat × Option Nat)) := do
  match ← remaining with
  | [] => return none
  | c :: rest =>
    match sign c with
    | '*' => found rest 0 none
    | '+' => found rest 1 none
    | '?' => found rest 0 (some 1)
    | '\x7b' =>
      match bounds? rest with
      | none => if g.flags.points then complain .repetition else return none
      | some (low, high, rest) =>
        if high.any fun h => h < low then complain .repetition
        else if startsWith "\x7d" rest then
          found (rest.drop 1) low (high.filter fun h => h < unbounded)
        else if g.flags.points then complain (.unclosed '\x7d')
        else return none
    | _ => return none
where
  /-- The answer, and where to go on. -/
  found (rest : List Nat) (low : Nat) (high : Option Nat) :
      Reading (Option (Nat × Option Nat)) := do
    goOn rest
    return some (low, high)

/-- An expression as often as is told after it; the groups above `low` are those in it. -/
def repeated (g : Grammar) (low : Nat) (body : Regex) : Reading Regex := do
  match ← repetition? g with
  | none => return body
  | some (min, max) =>
    let greedy ← if (← next?) = some '?' then do
        skip 1
        pure false
      else pure true
    return .many min max greedy low (← get).groups body

/-! ### Expressions -/

/-- The codes of an atom. -/
def Atom.regex : Atom → Regex
  | one c => .code (.one c)
  | ranges rs => .code ⟨rs, false, false⟩

/-- What a group found before, told by its number. -/
def numberedReference (g : Grammar) : Reading Regex := do
  let cs ← remaining
  let (n, rest) := count cs
  if n ≤ g.groups then
    goOn rest
    return .earlier [n]
  else if g.flags.points then complain .reference
  else
    match cs with
    | [] => return .empty
    | c :: rest =>
      if !isOctal c then
        goOn rest
        return .code (.one c)
      else
        let (n, rest) := octal (if c < 0x34 then 2 else 1) (c - 0x30) rest
        goOn rest
        return .code (.one n)

/-- What a group found before, told by its name. -/
def namedReference (g : Grammar) : Reading Regex := do
  let strict := g.flags.points || !g.names.isEmpty
  let rest ← remaining
  let plain (c : Complaint) : Reading Regex :=
    if strict then complain c else return .code (.one 'k'.toNat)
  if !startsWith "<" rest then plain .noName
  else
    match name? (rest.drop 1) with
    | none => plain .badName
    | some (name, rest) =>
      match g.names.filter fun (s, _) => s = name with
      | [] => plain .unknownName
      | found =>
        goOn rest
        return .earlier (found.map Prod.snd)

/-- Whether a brace opens a count. -/
def opensCount (rest : List Nat) : Bool :=
  match bounds? rest with
  | some (_, _, rest) => startsWith "\x7d" rest
  | none => false

/-- An expression without repetition that holds no others, and whether it may be repeated. -/
def simple (g : Grammar) : Reading (Regex × Bool) := do
  let lines := g.flags.has 'm'
  let points := g.flags.points
  match ← remaining with
  | [] => complain .ending
  | c :: rest =>
    match sign c with
    | '^' =>
      goOn rest
      return (.start lines, false)
    | '$' =>
      goOn rest
      return (.finish lines, false)
    | '.' =>
      goOn rest
      return (.code ⟨if g.flags.has 's' then [] else Ranges.lineEnds, true, false⟩, true)
    | '*' | '+' | '?' => complain .nothingToRepeat
    | '\x7b' =>
      if points then complain .stray
      else if opensCount rest then complain .nothingToRepeat
      else
        goOn rest
        return (.code (.one c), true)
    | ']' | '\x7d' =>
      if points then complain .stray
      else
        goOn rest
        return (.code (.one c), true)
    | '[' =>
      goOn rest
      return (← codeClass g, true)
    | '\\' =>
      goOn rest
      match rest.head?.map sign with
      | some 'b' =>
        skip 1
        return (.wordEdge false, false)
      | some 'B' =>
        skip 1
        return (.wordEdge true, false)
      | some 'k' =>
        skip 1
        return (← namedReference g, true)
      | some '0' =>
        let rest := rest.drop 1
        if points then
          if rest.head?.any isDigit then complain .digits
          else
            goOn rest
            return (.code (.one 0), true)
        else
          let (n, rest) := octal 2 0 rest
          goOn rest
          return (.code (.one n), true)
      | some d =>
        if d.isDigit then return (← numberedReference g, true)
        else return ((← escapedAtom g false).regex, true)
      | none => complain .ending
    | _ =>
      goOn rest
      return (.code (.one c), true)

/-- What an opening bracket begins. -/
inductive Opening
  | plain
  | group (n : Nat)
  | look (behind negated : Bool)

/-- Reads what follows an opening bracket. -/
def opening (g : Grammar) : Reading Opening := do
  let rest ← remaining
  if !startsWith "?" rest then return .group (← openGroup)
  else if startsWith "?:" rest then found 2 .plain
  else if startsWith "?=" rest then found 2 (.look false false)
  else if startsWith "?!" rest then found 2 (.look false true)
  else if startsWith "?<=" rest then found 3 (.look true false)
  else if startsWith "?<!" rest then found 3 (.look true true)
  else if startsWith "?<" rest then
    match name? (rest.drop 2) with
    | none => complain .badName
    | some (name, rest) =>
      goOn rest
      let n ← openGroup
      if g.names.any fun (s, i) => s = name && i < n then complain .doubleName
      else return .group n
  else complain .group
where
  /-- The answer, and where to go on. -/
  found (n : Nat) (o : Opening) : Reading Opening := do
    skip n
    return o

mutual

/-- Alternatives up to a closing bracket or the end. -/
def alternatives (g : Grammar) : Nat → Reading Regex
  | 0 => complain .ending
  | fuel + 1 => do
    let first ← sequence g fuel
    if (← next?) = some '|' then
      skip 1
      return .either first (← alternatives g fuel)
    else return first

/-- One alternative. -/
def sequence (g : Grammar) : Nat → Reading Regex
  | 0 => complain .ending
  | fuel + 1 => do
    match ← next? with
    | none | some '|' | some ')' => return .empty
    | some '(' =>
      let low := (← get).groups
      skip 1
      let kind ← opening g
      let body ← alternatives g fuel
      expect ')'
      let first ← match kind with
        | .plain => repeated g low body
        | .group n => repeated g low (.group n body)
        | .look behind negated =>
          let r := Regex.look behind negated body
          if behind || g.flags.points then pure r else repeated g low r
      return .both first (← sequence g fuel)
    | some _ =>
      let low := (← get).groups
      let (r, repeatable) ← simple g
      let first ← if repeatable then repeated g low r else pure r
      return .both first (← sequence g fuel)

end

/-- The regular expression that a text spells. -/
def read (flags : Flags) (text : List UInt16) : Except Complaint Program := do
  let cs := codesOf flags.points text
  let g := Grammar.of flags cs
  let (body, p) ← (alternatives g (3 * cs.length + 3)).run ⟨cs, 0⟩
  if p.rest.isEmpty then return ⟨body, p.groups, g.names, flags⟩ else throw .extraneous

end Regex

end ScriptHost
