import ScriptHost.Engine.Numeral
import ScriptHost.Text.Case
import ScriptHost.Text.Ranges

/-!
# Regular expressions

What a regular expression says, apart from the text that spells it.

* `Regex.CodeSet`: a set of codes, which may be asked without regard to case;
* `Regex`: a regular expression;
* `Regex.Program`: one with its flags and the names of its groups.

A code is a unit of 16 bits, or a code point if the flags ask for that.
-/

namespace ScriptHost

namespace Regex

/-! ### Sets of codes -/

/-- The blanks and line ends. -/
def blanks : Ranges := Blank.codes

/-- The one code that stands for a code in the other case, or the code itself. -/
def single (f : Char → List Char) (c : Nat) : Nat :=
  if 0xD800 ≤ c && c < 0xE000 then c
  else
    match f (Char.ofNat c) with
    | [d] => d.toNat
    | _ => c

/-- Letters that are one and the same but are made of the same parts in another way. -/
def twins : List (Nat × Nat) := [(0x1FD3, 0x390), (0x1FE3, 0x3B0), (0xFB06, 0xFB05)]

/-- Whether a code is a letter of the Cherokee syllabary that stands for both cases. -/
def isCherokee (c : Nat) : Bool := 0x13A0 ≤ c && c < 0x13F6

/-- What codes have in common that differ in case: units by their upper case, where nothing outside
ASCII stands for something in it, and code points by the lower case of that. -/
def fold (points : Bool) (c : Nat) : Nat :=
  let up := single Case.upper c
  if points then
    if c = 0x130 || c = 0x131 then c
    else if isCherokee up then up
    else (twins.lookup c).getD (single Case.lower up)
  else if 0x10000 ≤ up || (0x80 ≤ c && up < 0x80) then c
  else up

/-- The codes that have in common with a code what codes have that differ in case. -/
def kin (points : Bool) (c : Nat) : List Nat :=
  let key := fold points c
  let above := if points then key :: Case.lowerSources key else [key]
  let others := (twins.filter fun (_, d) => d = key).map Prod.fst
  (c :: above ++ above.flatMap Case.upperSources ++ others).filter fun d => fold points d = key

/-- A set of codes: those of some ranges, or all others. -/
structure CodeSet where
  ranges : Ranges
  negated : Bool
  /-- Whether a code belongs to the ranges, where case is ignored, if any other one does that
  differs in case only; if not, the code counts that stands for all of these. -/
  wide : Bool

namespace CodeSet

def one (c : Nat) : CodeSet := ⟨[(c, c)], false, true⟩

/-- Whether a set holds a code. -/
def has (s : CodeSet) (ignoreCase points : Bool) (c : Nat) : Bool :=
  let found :=
    if !ignoreCase then s.ranges.has c
    else if !s.wide then s.ranges.has (fold points c)
    else
      match s.ranges with
      | [(low, high)] =>
        if low = high then fold points low = fold points c
        else (kin points c).any s.ranges.has
      | rs => (kin points c).any rs.has
  found != s.negated

end CodeSet

end Regex

/-! ### Expressions -/

/-- A regular expression. -/
inductive Regex
  | empty
  | code (s : Regex.CodeSet)
  | both (first second : Regex)
  | either (first second : Regex)
  /-- A group, of which is kept what it finds. -/
  | group (n : Nat) (body : Regex)
  /-- What the first of some groups found that found something. -/
  | earlier (groups : List Nat)
  /-- So many times; what the groups above `low` and up to `high` found before is forgotten first,
  if none is needed. -/
  | many (min : Nat) (max : Option Nat) (greedy : Bool) (low high : Nat) (body : Regex)
  /-- What stands ahead or behind, without going there. -/
  | look (behind negated : Bool) (body : Regex)
  /-- The start of the text, or of each line. -/
  | start (lines : Bool)
  /-- The end of the text, or of each line. -/
  | finish (lines : Bool)
  /-- The start or the end of a word, or any other place. -/
  | wordEdge (negated : Bool)

namespace Regex

/-! ### Flags -/

/-- The letters of the flags in the order in which they are listed. -/
def flagLetters : List Char := ['d', 'g', 'i', 'm', 's', 'u', 'v', 'y']

/-- The flags of a regular expression. -/
structure Flags where
  letters : List Char

namespace Flags

def has (f : Flags) (letter : Char) : Bool := f.letters.contains letter

/-- Whether the expression is about code points. -/
def points (f : Flags) : Bool := f.has 'u' || f.has 'v'

/-- The flags that letters stand for: each known and there once, and one way at most to ask for
code points. -/
def ofChars? (cs : List Char) : Option Flags :=
  if cs.all flagLetters.contains && cs.eraseDups.length = cs.length
      && !(cs.contains 'u' && cs.contains 'v')
  then some ⟨cs⟩
  else none

end Flags

/-- A regular expression with what is known about it. -/
structure Program where
  body : Regex
  /-- How many groups there are. -/
  groups : Nat
  /-- The groups that have names, in their order. -/
  names : List (String × Nat)
  flags : Flags

end Regex

end ScriptHost
